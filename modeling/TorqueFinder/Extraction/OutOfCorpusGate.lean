import TorqueFinder.Extraction.ClaudeClient
import TorqueFinder.Retrieval.ProductMatchLaws
import TorqueFinder.Retrieval.Rerank

/-! When the gate abstains, and when its verdict depends on the texts alone. -/

namespace TorqueFinder

open PyText

variable {order : SetOrder} {query : String} {candidates : List ExtractionCandidate}

/-- The title of a candidate, empty when it has none. -/
def ExtractionCandidate.title (candidate : ExtractionCandidate) : String :=
  candidate.documentTitle.getD ""

/-- The scope of a candidate is the scope of its title. -/
theorem candidateScope_eq_title (order : SetOrder) (candidate : ExtractionCandidate) :
    candidateScope order candidate = normalizeProduct order candidate.title := by
  -- A missing or empty title is not looked at, and nothing would be read off it.
  unfold candidateScope ExtractionCandidate.title
  cases candidate.documentTitle with
  | none => rfl
  | some title =>
    dsimp only [Option.getD_some]
    split
    · rename_i empty
      rw [normalizeProduct, if_pos empty]
    · rfl

/-- The gate abstains when a product is asked and every title fails to match it. -/
theorem isOutOfCorpus_iff (identified : (extractQueryScope order query).isIdentified = true) :
    isOutOfCorpus order query candidates = true ↔
      ∀ candidate ∈ candidates,
        (extractQueryScope order query).Conflicts (candidateScope order candidate) ∨
          ((extractQueryScope order query).family = none ∧
            (candidateScope order candidate).OmitsBrand) := by
  -- A candidate that does not match conflicts, or it names a family without a brand.
  simp only [isOutOfCorpus, identified, Bool.not_true, Bool.false_eq_true, if_false,
    List.all_eq_true, Bool.not_eq_true', scopeMatches_eq_false_iff identified]

section InCorpus

/-- The scope names a brand of the corpus, or a family and no brand. -/
def AsksInCorpus (asked : ProductScope) : Prop :=
  -- A family alone belongs to a brand of the corpus.
  (∃ brand ∈ inCorpusBrands, asked.brand = some brand) ∨
    (asked.family ≠ none ∧ asked.brand = none)

/-- A question about the corpus names something. -/
theorem AsksInCorpus.isIdentified {asked : ProductScope} (asks : AsksInCorpus asked) :
    asked.isIdentified = true := by
  -- Either way something is named.
  rw [isIdentified_iff]
  rcases asks with ⟨brand, _, named⟩ | ⟨family, _⟩
  · exact Or.inr (by simp [named])
  · exact Or.inl family

/-- The gate abstains only when every title conflicts with the question. -/
def AbstainsOnlyOnConflict (order : SetOrder) (query : String)
    (candidates : List ExtractionCandidate) : Prop :=
  -- What the gate is documented to do.
  isOutOfCorpus order query candidates = true →
    ∀ candidate ∈ candidates,
      (extractQueryScope order query).Conflicts (candidateScope order candidate)

/-- A brand-only question conflicts with the titles that name a different brand. -/
theorem conflicts_of_brand_only {asked candidate : ProductScope} (brandOnly : asked.family = none)
    (named : asked.brand ≠ none) :
    asked.Conflicts candidate ↔ candidate.brand ≠ none ∧ candidate.brand ≠ asked.brand := by
  -- Without a family only the brands can conflict.
  simp [ProductScope.Conflicts, brandOnly, named, eq_comm]

/-- A brand-only question is turned away when every title names something but not its brand. -/
theorem isOutOfCorpus_brand_only_iff (brandOnly : (extractQueryScope order query).family = none)
    (named : (extractQueryScope order query).brand ≠ none) :
    isOutOfCorpus order query candidates = true ↔
      ∀ candidate ∈ candidates,
        (candidateScope order candidate).brand ≠ (extractQueryScope order query).brand ∧
          (candidateScope order candidate).isIdentified = true := by
  -- A title that omits the brand counts as a mismatch when it names a family.
  rw [isOutOfCorpus_iff (isIdentified_iff.mpr (Or.inr named))]
  refine forall₂_congr fun candidate _ => ?_
  rw [conflicts_of_brand_only brandOnly named, isIdentified_iff, ProductScope.OmitsBrand]
  by_cases silent : (candidateScope order candidate).brand = none
  · simp [silent, brandOnly, named.symm]
  · simp [silent]

/-- Only a brand-only question that meets titles without brands is turned away for nothing. -/
theorem abstainsOnlyOnConflict_iff (asks : AsksInCorpus (extractQueryScope order query)) :
    AbstainsOnlyOnConflict order query candidates ↔
      (extractQueryScope order query).family ≠ none ∨
      (∀ candidate ∈ candidates, ¬ (candidateScope order candidate).OmitsBrand) ∨
      ∃ candidate ∈ candidates,
        (candidateScope order candidate).brand = (extractQueryScope order query).brand ∨
          (candidateScope order candidate).isIdentified = false := by
  unfold AbstainsOnlyOnConflict
  by_cases brandOnly : (extractQueryScope order query).family = none
  · have named : (extractQueryScope order query).brand ≠ none :=
      (isIdentified_iff.mp asks.isIdentified).resolve_left (not_not.mpr brandOnly)
    rw [isOutOfCorpus_brand_only_iff brandOnly named, or_iff_right (not_not.mpr brandOnly)]
    simp only [conflicts_of_brand_only brandOnly named]
    constructor
    · intro sound
      by_contra failure
      simp only [not_or, not_exists, not_and, not_forall, not_not] at failure
      obtain ⟨⟨omitting, member, omits⟩, unmatched⟩ := failure
      -- Nothing matches, so the gate abstains, although one title only omits its brand.
      refine (sound (fun candidate inside => ⟨(unmatched candidate inside).1, ?_⟩) omitting
        member).1 omits.2
      simpa using (unmatched candidate inside).2
    -- Conversely, a title that omits nothing conflicts, and one that matches opens the gate.
    · rintro (complete | ⟨matching, member, matched⟩) gate candidate inside
      · obtain ⟨different, something⟩ := gate candidate inside
        refine ⟨fun silent => complete candidate inside ⟨?_, silent⟩, different⟩
        exact (isIdentified_iff.mp something).resolve_right (not_not.mpr silent)
      · obtain ⟨different, something⟩ := gate matching member
        rcases matched with same | nothing
        · exact absurd same different
        · simp [nothing] at something
  · -- A question that names a family is only turned away by conflicts.
    rw [isOutOfCorpus_iff asks.isIdentified]
    simp [brandOnly]

/-- A question about a brand of the corpus. -/
def avidQuestion : String := "avid brake caliper bolt torque?"

/-- A candidate with the given document title. -/
def titledCandidate (title : String) : ExtractionCandidate where
  -- Only the title matters to the gate.
  index := 1
  sourceType := .pdf
  label := ""
  documentTitle := some title

/-- The equivalence for a brand question and a manual that names the brand. -/
theorem abstainsOnlyOnConflict_iff_avid :
    AbstainsOnlyOnConflict .textual avidQuestion [titledCandidate "2012-avid-code-manual.pdf"] ↔
      (extractQueryScope .textual avidQuestion).family ≠ none ∨
      (∀ candidate ∈ [titledCandidate "2012-avid-code-manual.pdf"],
        ¬ (candidateScope .textual candidate).OmitsBrand) ∨
      ∃ candidate ∈ [titledCandidate "2012-avid-code-manual.pdf"],
        (candidateScope .textual candidate).brand =
            (extractQueryScope .textual avidQuestion).brand ∨
          (candidateScope .textual candidate).isIdentified = false :=
  abstainsOnlyOnConflict_iff (Or.inl ⟨"avid", by decide, by decide +kernel⟩)

/-- A manual of the asked brand that does not name the brand makes the gate abstain. -/
theorem not_abstainsOnlyOnConflict :
    ¬ ∀ (order : SetOrder) (query : String) (candidates : List ExtractionCandidate),
      candidates ≠ [] → AsksInCorpus (extractQueryScope order query) →
        AbstainsOnlyOnConflict order query candidates := by
  -- The title names the family bb7 and no brand, so nothing conflicts and the gate still abstains.
  intro always
  have sound := always .textual avidQuestion [titledCandidate "bb7-user-manual.pdf"] (by decide)
    (Or.inl ⟨"avid", by decide, by decide +kernel⟩) (by decide +kernel)
    (titledCandidate "bb7-user-manual.pdf") (by decide)
  exact absurd sound (by decide +kernel)

end InCorpus

section OutOfCorpus

/-- A brand no title carries is turned away exactly when every title names something. -/
theorem isOutOfCorpus_iff_all_identified {brand : String}
    (brandOnly : (extractQueryScope order query).family = none)
    (named : (extractQueryScope order query).brand = some brand)
    (noneCarries : ∀ candidate ∈ candidates, (candidateScope order candidate).brand ≠ some brand) :
    isOutOfCorpus order query candidates = true ↔
      ∀ candidate ∈ candidates, (candidateScope order candidate).isIdentified = true := by
  -- No title carries the brand, so only naming nothing is left to open the gate.
  rw [isOutOfCorpus_brand_only_iff brandOnly (by simp [named]), named]
  exact forall₂_congr fun candidate member => and_iff_right (noneCarries candidate member)

/-- A question about a brand outside the corpus. -/
def boxQuestion : String := "Box Three rear derailleur b-bolt torque?"

/-- The equivalence for that question and a manual of the corpus. -/
theorem isOutOfCorpus_iff_all_identified_box :
    isOutOfCorpus .textual boxQuestion [titledCandidate "2010-sram-technical-manual.pdf"] = true ↔
      ∀ candidate ∈ [titledCandidate "2010-sram-technical-manual.pdf"],
        (candidateScope .textual candidate).isIdentified = true :=
  isOutOfCorpus_iff_all_identified (by decide +kernel)
    (show (extractQueryScope .textual boxQuestion).brand = some "box" by decide +kernel)
    (by decide +kernel)

/-- A title that names nothing keeps the gate open for a brand outside the corpus. -/
theorem not_isOutOfCorpus_of_brand :
    ¬ ∀ (order : SetOrder) (query brand : String) (candidates : List ExtractionCandidate),
      (extractQueryScope order query).brand = some brand →
      brand ∈ outOfCorpusBrands ∨ brand ∈ brandPhrases.map Prod.snd →
      (extractQueryScope order query).family = none → candidates ≠ [] →
      (∀ candidate ∈ candidates, (candidateScope order candidate).brand ≠ some brand) →
        isOutOfCorpus order query candidates = true := by
  -- The title of the chart names neither a family nor a brand.
  intro always
  have abstained := always .textual boxQuestion "box"
    [titledCandidate "2015-front-suspension-oil-air-spring-chart.pdf"] (by decide +kernel)
    (by decide) (by decide +kernel) (by decide) (by decide +kernel)
  exact absurd abstained (by decide +kernel)

end OutOfCorpus

section Determinism

/-- The titles of the candidates that have one. -/
def documentTitles (candidates : List ExtractionCandidate) : List String :=
  candidates.filterMap ExtractionCandidate.documentTitle

/-- The facet a process stores for a title. -/
def storedFacet (order : SetOrder) (title : String) : ProductMeta where
  -- What the backfill and the upsert write.
  family := (deriveFacet order title).1
  brand := (deriveFacet order title).2

/-- Two processes read the same scopes off a text, in every role the text can have. -/
def ScopesAgree (first second : SetOrder) (text : String) : Prop :=
  -- Neither derivation depends on the order of the set of brands.
  normalizeProduct first text = normalizeProduct second text ∧
    deriveFacet first text = deriveFacet second text ∧
    extractQueryScope first text = extractQueryScope second text

/-- No two processes ever read a scope, a verdict or a delta differently. -/
def ScopeIsFunctionOfText (query : String) (candidates : List ExtractionCandidate) : Prop :=
  (∀ text ∈ query :: documentTitles candidates, ∀ first second, ScopesAgree first second text) ∧
  (∀ first second, isOutOfCorpus first query candidates = isOutOfCorpus second query candidates) ∧
  -- The asking and the storing process may each be replaced by another one.
  ∀ title ∈ documentTitles candidates, ∀ asking storing otherAsking otherStoring,
    productDelta (extractQueryScope asking query) (storedFacet storing title) =
      productDelta (extractQueryScope otherAsking query) (storedFacet otherStoring title)

/-- The scopes of a text are the same in every process exactly when it names one brand. -/
theorem scopesAgree_iff {text : String} :
    (∀ first second, ScopesAgree first second text) ↔ NamesOneBrand text := by
  -- The order only reaches the scope through the detected brand.
  rw [← detectedBrand_eq_iff]
  constructor
  -- The brand can be read off the scope.
  · intro agree first second
    have same := (agree first second).1
    rw [normalizeProduct_eq, normalizeProduct_eq] at same
    simpa using congrArg ProductScope.brand same
  · intro brands first second
    have brand := brands first second
    have family := detectedFamily_eq first second text
    have scope : normalizeProduct first text = normalizeProduct second text := by
      rw [normalizeProduct_eq, normalizeProduct_eq, brand, family]
    refine ⟨scope, ?_, ?_⟩
    · rw [deriveFacet, deriveFacet, scope]
    · rw [extractQueryScope_eq, extractQueryScope_eq, brand, family]

/-- The scope of a candidate only depends on the order through its title. -/
theorem candidateScope_eq {first second : SetOrder} {candidate : ExtractionCandidate}
    (agree : ∀ title, candidate.documentTitle = some title → ScopesAgree first second title) :
    candidateScope first candidate = candidateScope second candidate := by
  -- Without a title there is nothing to read.
  unfold candidateScope
  cases titled : candidate.documentTitle with
  | none => rfl
  | some title => simp only [(agree title titled).1]

/-- The verdict is the same in every process when the scopes of all texts are. -/
theorem isOutOfCorpus_eq {first second : SetOrder} (asked : ScopesAgree first second query)
    (titles : ∀ title ∈ documentTitles candidates, ScopesAgree first second title) :
    isOutOfCorpus first query candidates = isOutOfCorpus second query candidates := by
  -- The question is read alike, and so is the title of every candidate.
  have each : ∀ candidate ∈ candidates,
      candidateScope first candidate = candidateScope second candidate := by
    intro candidate member
    refine candidateScope_eq fun title titled => titles title ?_
    exact List.mem_filterMap.mpr ⟨candidate, member, titled⟩
  simp only [isOutOfCorpus, asked.2.2]
  split
  · rfl
  · rw [Bool.eq_iff_iff, List.all_eq_true, List.all_eq_true]
    refine forall₂_congr fun candidate member => ?_
    rw [each candidate member]

/-- Scopes, verdicts and deltas depend on the texts alone exactly when each text names one brand. -/
theorem scopeIsFunctionOfText_iff (query : String) (candidates : List ExtractionCandidate) :
    ScopeIsFunctionOfText query candidates ↔
      ∀ text ∈ query :: documentTitles candidates, NamesOneBrand text := by
  -- Verdicts and deltas only read scopes, so agreement on scopes is all there is.
  constructor
  · intro stable text member
    exact scopesAgree_iff.mp (stable.1 text member)
  -- Agreement on every text makes verdicts and deltas agree too.
  · intro oneBrand
    have agree : ∀ text ∈ query :: documentTitles candidates, ∀ first second,
        ScopesAgree first second text :=
      fun text member => scopesAgree_iff.mpr (oneBrand text member)
    refine ⟨agree, fun first second => ?_, fun title member asking storing otherAsking other => ?_⟩
    · exact isOutOfCorpus_eq (agree query (by simp) first second)
        fun title member => agree title (by simp [member]) first second
    · rw [(agree query (by simp) asking otherAsking).2.2, storedFacet, storedFacet,
        (agree title (by simp [member]) storing other).2.1]

/-- A title that names two brands, which two processes can read differently. -/
def twoBrandTitle : String := "sram-avid-disc-brake-pad-identification-guide.pdf"

/-- A title that names two brands has no scope of its own. -/
theorem not_scopeIsFunctionOfText :
    ¬ ∀ (query : String) (candidates : List ExtractionCandidate),
      ScopeIsFunctionOfText query candidates := by
  -- One process visits sram first, the other avid.
  intro always
  have same := (always twoBrandTitle []).1 twoBrandTitle (by simp) (.startingWith "sram")
    (.startingWith "avid")
  exact absurd same.1 (by decide +kernel)

end Determinism

end TorqueFinder
