import TorqueFinder.Lib.PyTextLaws
import TorqueFinder.Retrieval.PageExpansionLaws

/-! When the within-document pass lifts a page for nothing but the numbers of its torque values. -/

namespace TorqueFinder

open PyText Ranking

/-- The tokens of a text in order, each marked when all of it lies inside torque values. -/
def markedTokens (text : String) : List (String × Bool) :=
  -- Lower-casing a character passes its mark on to what it becomes.
  let lowered := (torqueRe.markMatches 0 text.toList).flatMap fun (char, inside) =>
    (lowerChar char).map fun low => (low, inside)
  let runs := (lowered.splitOnP fun entry => !isWordChar entry.1).filter fun run => !run.isEmpty
  runs.map fun run => (String.ofList (run.map Prod.fst), run.all Prod.snd)

/-- Every token the page shares with the question lies inside a torque value. -/
def RegexOnly (queryText : String) (page : ChunkMeta) : Prop :=
  ∀ entry ∈ markedTokens page.text, entry.1 ∈ rerankTokens queryText → entry.2 = true

/-- The tokens of a page are a finite list. -/
instance (queryText : String) (page : ChunkMeta) : Decidable (RegexOnly queryText page) :=
  inferInstanceAs (Decidable (∀ entry ∈ _, _))

/-- The pass puts no regex-only page in front of a hit with a higher raw score. -/
def NeverLifts (queryText : String) (fused : List FusedHit) (metas : Int → Option ChunkMeta)
    (leaderDocId : Int) : Prop :=
  -- A page that only the regular expression matches stays behind better ones.
  ∀ hit other page, metas hit.chunkId = some page → RegexOnly queryText page →
    hit.score < other.score →
      ¬ Precedes (rerankWithinDoc queryText fused metas leaderDocId) hit other

/-- A PDF page of the expanded document with a torque value and a token of the question. -/
def EarnsBonus (queryText : String) (leaderDocId : Int) (page : ChunkMeta) : Prop :=
  -- The bonus is for pages of the leading manual that show a torque value.
  page.documentId = leaderDocId ∧ page.isPdf = true ∧
    matchesFastenerSpec (rerankTokens queryText) page = true

/-- Ids and tests can be compared. -/
instance (queryText : String) (leaderDocId : Int) (page : ChunkMeta) :
    Decidable (EarnsBonus queryText leaderDocId page) :=
  inferInstanceAs (Decidable (_ ∧ _))

/-- A hit in front of another by its raw score once the other is given the bonus. -/
def StaysAhead (fused : List FusedHit) (ahead behind : FusedHit) : Prop :=
  -- A tie is decided by the order before the pass.
  behind.score + rerankBonus < ahead.score ∨
    (behind.score + rerankBonus = ahead.score ∧ ¬ Precedes fused behind ahead)

/--
No page that shares nothing but torque values trails an unboosted hit by the bonus or less.

A question without distinctive tokens sorts nothing, so there the given order has to descend.
-/
def KeepsTorqueOverlapDown (queryText : String) (fused : List FusedHit)
    (metas : Int → Option ChunkMeta) (leaderDocId : Int) : Prop :=
  -- Without tokens the pass leaves the order as it was.
  if rerankTokens queryText = ∅ then
    ∀ hit other, Precedes fused hit other → (metas hit.chunkId).isSome → other.score ≤ hit.score
  else
    ∀ hit ∈ fused, ∀ other ∈ fused, ∀ page, metas hit.chunkId = some page →
      RegexOnly queryText page → EarnsBonus queryText leaderDocId page →
      (∀ otherPage, metas other.chunkId = some otherPage →
        ¬ EarnsBonus queryText leaderDocId otherPage) →
      hit.score < other.score → StaysAhead fused other hit

/-- A question without distinctive tokens shares nothing with any page. -/
theorem regexOnly_of_silent {queryText : String} (silent : rerankTokens queryText = ∅)
    (page : ChunkMeta) : RegexOnly queryText page := by
  -- Nothing is shared with an empty set.
  intro entry _ shared
  simp [silent] at shared

section Bonus

variable {queryText : String} {metas : Int → Option ChunkMeta} {leaderDocId : Int}
  {hit : FusedHit} {page : ChunkMeta}

/-- A page that earns the bonus gets it. -/
theorem withinDocBonus_of_earns (known : metas hit.chunkId = some page)
    (earns : EarnsBonus queryText leaderDocId page) :
    withinDocBonus queryText metas leaderDocId hit = rerankBonus := by
  -- All three conditions of the bonus are met.
  obtain ⟨owned, pdf, spec⟩ := earns
  simp [withinDocBonus, known, owned, pdf, spec]

/-- A hit whose page does not earn the bonus gets nothing. -/
theorem withinDocBonus_of_not_earns
    (idle : ∀ page, metas hit.chunkId = some page → ¬ EarnsBonus queryText leaderDocId page) :
    withinDocBonus queryText metas leaderDocId hit = 0 := by
  -- The bonus asks for the document, the kind and the specification in turn.
  unfold withinDocBonus
  split
  · rfl
  · rename_i page known
    have barred := idle page known
    split
    · rfl
    · rename_i eligible
      rw [not_or, not_not, Bool.not_eq_false] at eligible
      exact if_neg fun spec => barred ⟨eligible.1, eligible.2, spec⟩

end Bonus

section Lifting

variable {queryText : String} {fused : List FusedHit} {metas : Int → Option ChunkMeta}
  {leaderDocId : Int} {hit other : FusedHit} {page : ChunkMeta}

/-- A boosted page is sorted behind a higher unboosted hit exactly when that hit stays ahead. -/
theorem not_precedes_iff_staysAhead (left : hit ∈ fused) (right : other ∈ fused)
    (known : metas hit.chunkId = some page) (earns : EarnsBonus queryText leaderDocId page)
    (idle : ∀ otherPage, metas other.chunkId = some otherPage →
      ¬ EarnsBonus queryText leaderDocId otherPage) :
    ¬ Precedes (sortDesc (fun hit => hit.score + withinDocBonus queryText metas leaderDocId hit)
        fused) hit other ↔ StaysAhead fused other hit := by
  -- The keys are the score plus the bonus and the bare score.
  rw [sortDesc_precedes_iff, withinDocBonus_of_earns known earns, withinDocBonus_of_not_earns idle,
    add_zero, StaysAhead]
  have order := lt_trichotomy (hit.score + rerankBonus) other.score
  constructor
  · intro behind
    rw [not_or] at behind
    rcases order with smaller | tied | larger
    · exact Or.inl smaller
    · exact Or.inr ⟨tied, fun held => behind.2 ⟨tied, held⟩⟩
    · exact absurd ⟨left, right, larger⟩ behind.1
  · intro ahead
    rintro (⟨_, _, larger⟩ | ⟨tied, held⟩)
    · rcases ahead with smaller | ⟨tied, _⟩
      · exact lt_asymm larger smaller
      · exact larger.ne' tied
    · rcases ahead with smaller | ⟨_, apart⟩
      · exact smaller.ne tied
      · exact apart held

/-- Only a boosted page can pass a higher hit, and only one that is not boosted as well. -/
theorem earns_of_precedes (known : metas hit.chunkId = some page) (lower : hit.score < other.score)
    (held : Precedes
      (sortDesc (fun hit => hit.score + withinDocBonus queryText metas leaderDocId hit) fused)
      hit other) :
    EarnsBonus queryText leaderDocId page ∧ ∀ otherPage, metas other.chunkId = some otherPage →
      ¬ EarnsBonus queryText leaderDocId otherPage := by
  have keys := held.key_le
  constructor
  · by_contra idle
    -- Without a bonus the lower hit has the lower key, whatever the other one earns.
    have nothing : withinDocBonus queryText metas leaderDocId hit = 0 :=
      withinDocBonus_of_not_earns fun facts found => by
        obtain rfl := Option.some.inj (found.symm.trans known)
        exact idle
    have atLeast : (0 : ℚ) ≤ withinDocBonus queryText metas leaderDocId other :=
      withinDocBonus_nonneg other
    linarith
  · intro otherPage found earns
    have most : withinDocBonus queryText metas leaderDocId hit ≤ rerankBonus :=
      withinDocBonus_le hit
    rw [withinDocBonus_of_earns found earns] at keys
    linarith

end Lifting

variable (queryText : String) (fused : List FusedHit) (metas : Int → Option ChunkMeta)
  (leaderDocId : Int)

/-- No regex-only page is lifted exactly when none trails an unboosted hit within the bonus. -/
theorem neverLifts_iff :
    NeverLifts queryText fused metas leaderDocId ↔
      KeepsTorqueOverlapDown queryText fused metas leaderDocId := by
  unfold NeverLifts KeepsTorqueOverlapDown rerankWithinDoc
  by_cases silent : rerankTokens queryText = ∅
  · -- A silent question returns the given order, in which every page counts as regex-only.
    simp only [if_pos silent]
    constructor
    · intro never hit other held known
      obtain ⟨page, facts⟩ := Option.isSome_iff_exists.mp known
      by_contra higher
      exact never hit other page facts (regexOnly_of_silent silent page) (not_le.mp higher) held
    · intro descends hit other page facts _ lower held
      exact absurd (descends hit other held (by simp [facts])) (not_le.mpr lower)
  · simp only [if_neg silent]
    constructor
    · intro never hit left other right page known overlap earns idle lower
      exact (not_precedes_iff_staysAhead left right known earns idle).mp
        (never hit other page known overlap lower)
    · intro keeps hit other page known overlap lower held
      have left := (mem_sortDesc _ fused).mp held.left_mem
      have right := (mem_sortDesc _ fused).mp held.right_mem
      obtain ⟨earns, idle⟩ := earns_of_precedes known lower held
      have ahead := keeps hit left other right page known overlap earns idle lower
      exact (not_precedes_iff_staysAhead left right known earns idle).mpr ahead held

/-- A question that quotes a torque value. -/
def unitQuestion : String := "which one is 9 N-m"

/-- Two pages of one manual, of which the second only has the quoted torque value in common. -/
def unitMetas (chunkId : Int) : Option ChunkMeta :=
  -- The second page shares only tokens of its torque value with the question.
  if chunkId = 1 then
    some { chunkId := 1, documentId := 1, ordinal := 4, text := "Caliper mounting", isPdf := true }
  else if chunkId = 2 then
    some { chunkId := 2, documentId := 1, ordinal := 9, text := "Tighten: 9 N-m", isPdf := true }
  else none

/-- The two pages as neighbouring hits of one channel. -/
def unitPool : List FusedHit := reciprocalRankFusion [[(1, 0.9), (2, 0.8)], []]

/-- Quoting a torque value in the question lifts a page for nothing but that value. -/
theorem not_neverLifts :
    ¬ ∀ queryText fused metas leaderDocId, NeverLifts queryText fused metas leaderDocId := by
  intro always
  have never := always unitQuestion unitPool unitMetas 1
  -- The tokens of the value are its number and the letters of its unit.
  exact never { chunkId := 2, score := 1 / 62 } { chunkId := 1, score := 1 / 61 } _ rfl
    (by decide +kernel) (by norm_num) (by decide +kernel)

end TorqueFinder
