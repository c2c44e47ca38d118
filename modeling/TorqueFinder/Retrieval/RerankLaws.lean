import TorqueFinder.Retrieval.Rerank

/-! What the title and product passes keep of the order they are given. -/

namespace TorqueFinder

open PyText Ranking

section Bounds

variable (queryText : String) (titles : Int → Option String) (asked : ProductScope)
  (facets : Int → Option ProductMeta) (hit : FusedHit)

/-- A title never lowers a score. -/
theorem hitTitleBoost_nonneg : 0 ≤ hitTitleBoost queryText titles hit := by
  -- The boost is a count times a positive step, cut at a positive cap.
  unfold hitTitleBoost titleBoost
  split
  · exact le_rfl
  · refine le_min (mul_nonneg (Nat.cast_nonneg _) ?_) ?_
    all_goals norm_num [titleTokenBoost, titleBoostCap]

/-- A title never adds more than the cap. -/
theorem hitTitleBoost_le : hitTitleBoost queryText titles hit ≤ titleBoostCap := by
  -- The cap bounds the count, and nothing is below the cap.
  unfold hitTitleBoost titleBoost
  split
  · norm_num [titleBoostCap]
  · exact min_le_right _ _

/-- A product never takes away more than the penalty. -/
theorem le_hitProductDelta : -productMismatchPenalty ≤ hitProductDelta asked facets hit := by
  -- The penalty is the least of the possible deltas.
  unfold hitProductDelta productDelta
  repeat' split
  all_goals norm_num [productMismatchPenalty, productMatchBoost]

/-- A product never adds more than the boost. -/
theorem hitProductDelta_le : hitProductDelta asked facets hit ≤ productMatchBoost := by
  -- The boost is the largest of the possible deltas.
  unfold hitProductDelta productDelta
  repeat' split
  all_goals norm_num [productMismatchPenalty, productMatchBoost]

end Bounds

section Passes

variable {order : SetOrder} {queryText : String} {fused : List FusedHit}
  {titles : Int → Option String} {facets : Int → Option ProductMeta} {first second : FusedHit}

/-- The title pass rearranges the pool. -/
theorem rerankByTitle_perm : (rerankByTitle queryText fused titles).Perm fused := by
  -- Without query tokens the pass returns the list, else it sorts it.
  unfold rerankByTitle
  split
  · exact List.Perm.refl _
  · exact sortDesc_perm _ _

/-- The product pass rearranges the pool. -/
theorem rerankByProduct_perm : (rerankByProduct order queryText fused facets).Perm fused := by
  -- Without an identified product the pass returns the list, else it sorts it.
  simp only [rerankByProduct]
  split
  · exact List.Perm.refl _
  · exact sortDesc_perm _ _

/-- The title pass never brings a hit past one that leads by more than the cap. -/
theorem rerankByTitle_precedes (held : Precedes fused first second)
    (margin : titleBoostCap < first.score - second.score) :
    Precedes (rerankByTitle queryText fused titles) first second := by
  -- Between no boost for one hit and the cap for the other, the margin still decides.
  unfold rerankByTitle
  split
  · exact held
  · exact sortDesc_precedes_of_margin held.left_mem held.right_mem
      (hitTitleBoost_nonneg queryText titles first) (hitTitleBoost_le queryText titles second)
      (by simpa using margin)

/-- The product pass never brings a hit past one that leads by more than boost and penalty. -/
theorem rerankByProduct_precedes (held : Precedes fused first second)
    (margin : productMatchBoost + productMismatchPenalty < first.score - second.score) :
    Precedes (rerankByProduct order queryText fused facets) first second := by
  -- Between the penalty for one hit and the boost for the other, the margin still decides.
  simp only [rerankByProduct]
  split
  · exact held
  · exact sortDesc_precedes_of_margin held.left_mem held.right_mem
      (le_hitProductDelta _ facets first) (hitProductDelta_le _ facets second)
      (by simpa [sub_neg_eq_add] using margin)

end Passes

section Composition

variable (order : SetOrder) (queryText : String) (fused : List FusedHit)
  (titles : Int → Option String) (facets : Int → Option ProductMeta)

/-- The product delta of a hit for the product the question names. -/
def deltaFor (hit : FusedHit) : ℚ :=
  hitProductDelta (extractQueryScope order queryText) facets hit

/-- Hits of equal product delta stand in the order the title pass put them in. -/
def KeepsTitleOrder : Prop :=
  -- Reading off the hits of any one delta gives the same list after the product pass as before.
  let titled := rerankByTitle queryText fused titles
  ∀ delta,
    (rerankByProduct order queryText titled facets).filter
        (fun hit => deltaFor order queryText facets hit = delta) =
      titled.filter fun hit => deltaFor order queryText facets hit = delta

/-- The title pass moves the later of two hits ahead of the earlier one. -/
def TitleOvertakes (earlier later : FusedHit) : Prop :=
  -- The boost of the titles changes the order of the two hits.
  rerankTokens queryText ≠ ∅ ∧
    earlier.score + hitTitleBoost queryText titles earlier <
      later.score + hitTitleBoost queryText titles later

/-- Two rational scores and two finite token sets can be compared. -/
instance (earlier later : FusedHit) : Decidable (TitleOvertakes queryText titles earlier later) :=
  inferInstanceAs (Decidable (_ ∧ _))

/-- Among hits of equal delta, the one the title pass puts ahead has no smaller score. -/
def TitleFollowsScores : Prop :=
  -- The second pass sorts the raw scores again, without the boost.
  fused.Pairwise fun earlier later =>
    deltaFor order queryText facets earlier = deltaFor order queryText facets later →
      if TitleOvertakes queryText titles earlier later then earlier.score ≤ later.score
      else later.score ≤ earlier.score

variable {order queryText fused titles facets}

/-- The product pass keeps hits of equal delta in place exactly when their scores descend. -/
theorem rerankByProduct_filter_iff
    (identified : (extractQueryScope order queryText).isIdentified = true) :
    (∀ delta,
      (rerankByProduct order queryText fused facets).filter
          (fun hit => deltaFor order queryText facets hit = delta) =
        fused.filter fun hit => deltaFor order queryText facets hit = delta) ↔
      fused.Pairwise fun first second =>
        deltaFor order queryText facets first = deltaFor order queryText facets second →
          second.score ≤ first.score := by
  -- The delta is constant on the hits of one delta, so the pass sorts that part by score.
  have part : ∀ delta,
      (rerankByProduct order queryText fused facets).filter
          (fun hit => deltaFor order queryText facets hit = delta) =
        sortDesc FusedHit.score
          (fused.filter fun hit => deltaFor order queryText facets hit = delta) := by
    intro delta
    simp only [rerankByProduct, identified, Bool.not_true, Bool.false_eq_true, if_false]
    refine filter_sortDesc_add fun first inside second also => ?_
    have firstDelta := of_decide_eq_true (List.mem_filter.mp inside).2
    have secondDelta := of_decide_eq_true (List.mem_filter.mp also).2
    exact firstDelta.trans secondDelta.symm
  simp only [part, sortDesc_eq_self_iff, List.pairwise_filter, decide_eq_true_eq]
  -- Any pair of equal delta lies in the part of that delta.
  simp only [pairwise_iff_precedes]
  constructor
  · intro held first second before same
    exact held _ first second before rfl same.symm
  · rintro held _ first second before rfl same
    exact held first second before same.symm

/-- The title order survives the product pass exactly when it follows the scores. -/
theorem keepsTitleOrder_iff (identified : (extractQueryScope order queryText).isIdentified = true) :
    KeepsTitleOrder order queryText fused titles facets ↔
      TitleFollowsScores order queryText fused titles facets := by
  -- The product pass keeps what descends, so the title pass has to leave it descending.
  simp only [KeepsTitleOrder, rerankByProduct_filter_iff identified]
  unfold rerankByTitle TitleFollowsScores TitleOvertakes
  -- Without distinctive tokens the title pass leaves the pool alone.
  by_cases silent : rerankTokens queryText = ∅
  · simp [silent]
  · rw [if_neg silent, pairwise_sortDesc_iff]
    refine List.Pairwise.iff fun earlier later => ?_
    simp only [ne_eq, silent, not_false_eq_true, true_and]
    split <;> simp only [eq_comm]

/-- A question that names a product and a model year. -/
def monarchQuestion : String := "2012 Monarch seal head torque"

/-- Two neighbouring keyword hits, of which the second is from the manual of the asked year. -/
def monarchPool : List FusedHit := reciprocalRankFusion [[(1, 0.9), (2, 0.8)], []]

/-- The titles of the two manuals. -/
def monarchTitles (chunkId : Int) : Option String :=
  -- Two manuals of the same family.
  if chunkId = 1 then some "2014 Monarch RL RT XX"
  else if chunkId = 2 then some "2012 Monarch" else none

/-- Both manuals carry the facet of the same product. -/
def monarchFacets (chunkId : Int) : Option ProductMeta :=
  if chunkId = 1 ∨ chunkId = 2 then some { family := some "monarch", brand := none } else none

/-- The equivalence at the two manuals of one product. -/
theorem keepsTitleOrder_iff_monarch :
    KeepsTitleOrder .textual monarchQuestion monarchPool monarchTitles monarchFacets ↔
      TitleFollowsScores .textual monarchQuestion monarchPool monarchTitles monarchFacets :=
  -- The question names the family, so the product pass is active.
  keepsTitleOrder_iff (by decide +kernel)

/-- The product pass can put the manual of another year back in front. -/
theorem not_keepsTitleOrder :
    ¬ ∀ order queryText, (extractQueryScope order queryText).isIdentified = true →
      ∀ fused titles facets, KeepsTitleOrder order queryText fused titles facets := by
  intro always
  -- Both manuals match the product, so only the raw scores are left to decide between them.
  have kept := always .textual monarchQuestion (by decide +kernel) monarchPool monarchTitles
    monarchFacets productMatchBoost
  exact absurd kept (by decide +kernel)

end Composition

end TorqueFinder
