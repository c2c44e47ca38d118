import TorqueFinder.Extraction.OutOfCorpusGate
import TorqueFinder.Indexing.StoreHistory

/-! The stored facet and the live title decide alike about the asked product. -/

namespace TorqueFinder

section Deltas

variable {order : SetOrder} {asked : ProductScope} {title : String}

/-- A family that is named is always confident enough to be stored. -/
theorem deriveFacet_eq (order : SetOrder) (title : String) :
    deriveFacet order title =
      ((normalizeProduct order title).family, (normalizeProduct order title).brand) := by
  rw [deriveFacet, normalizeProduct_eq]
  -- Without a family there is nothing to store, and with one the confidence meets the bar.
  cases family : detectedFamily order title with
  | none => simp
  | some named =>
    have confident : familyPersistConfidence ≤ familyConfidence.val := le_refl _
    simp [detectedScope, confident]

/-- A match only looks at the families and the brands. -/
theorem scopeMatches_congr {first second : ProductScope} (family : first.family = second.family)
    (brand : first.brand = second.brand) :
    scopeMatches asked first = scopeMatches asked second := by
  -- The match reads the family and the brand and nothing else.
  simp only [scopeMatches, family, brand]

/-- The scope rebuilt from a stored facet matches what the title matches. -/
theorem scopeMatches_storedFacet :
    scopeMatches asked (storedFacet order title).scope =
      scopeMatches asked (normalizeProduct order title) :=
  -- The stored facet has the family and brand that the gate derives.
  scopeMatches_congr (congrArg Prod.fst (deriveFacet_eq order title))
    (congrArg Prod.snd (deriveFacet_eq order title))

/-- The scope rebuilt from a stored facet names something when the title does. -/
theorem isIdentified_storedFacet :
    (storedFacet order title).scope.isIdentified =
      (normalizeProduct order title).isIdentified := by
  -- The other fields of a scope do not identify it.
  simp only [ProductScope.isIdentified, ProductMeta.scope, storedFacet, deriveFacet_eq]

/-- The delta of a stored facet, read off the title it was derived from. -/
theorem productDelta_storedFacet :
    productDelta asked (storedFacet order title) =
      if (normalizeProduct order title).isIdentified = false then 0
      else if scopeMatches asked (normalizeProduct order title) then productMatchBoost
      else -productMismatchPenalty := by
  -- The three cases of the delta read the facet as the gate reads the title.
  simp only [productDelta, isIdentified_storedFacet, scopeMatches_storedFacet,
    Bool.not_eq_eq_eq_not, Bool.not_true]

/-- A title that names nothing is never a mismatch. -/
theorem isIdentified_of_mismatch (identified : asked.isIdentified = true)
    (mismatch : scopeMatches asked (normalizeProduct order title) = false) :
    (normalizeProduct order title).isIdentified = true := by
  -- A conflict needs a name on the side of the title, and so does an omitted brand.
  rw [isIdentified_iff]
  rcases (scopeMatches_eq_false_iff identified).mp mismatch with conflict | ⟨_, omits⟩
  · rcases conflict with ⟨_, family, _⟩ | ⟨_, _, brand, _⟩
    · exact Or.inl family
    · exact Or.inr brand
  · exact Or.inl omits.1

/-- The three values a delta can have are different. -/
theorem deltas_distinct :
    (0 : ℚ) < productMatchBoost ∧ -productMismatchPenalty < (0 : ℚ) := by
  norm_num [productMatchBoost, productMismatchPenalty]

/-- The penalty falls on the titles that fail to match. -/
theorem productDelta_eq_penalty_iff (identified : asked.isIdentified = true) :
    productDelta asked (storedFacet order title) = -productMismatchPenalty ↔
      scopeMatches asked (normalizeProduct order title) = false := by
  -- The other two values are not negative.
  obtain ⟨boost, penalty⟩ := deltas_distinct
  rw [productDelta_storedFacet]
  constructor
  · intro penalized
    split at penalized
    · linarith
    · split at penalized
      · linarith
      · rename_i mismatch
        simpa using mismatch
  · intro mismatch
    simp [isIdentified_of_mismatch identified mismatch, mismatch]

/-- The boost goes to the titles that name something and match. -/
theorem productDelta_eq_boost_iff :
    productDelta asked (storedFacet order title) = productMatchBoost ↔
      (normalizeProduct order title).isIdentified = true ∧
        scopeMatches asked (normalizeProduct order title) = true := by
  -- The other two values are not positive.
  obtain ⟨boost, penalty⟩ := deltas_distinct
  rw [productDelta_storedFacet]
  constructor
  · intro boosted
    split at boosted
    · linarith
    · rename_i something
      split at boosted
      · rename_i matched
        exact ⟨by simpa using something, matched⟩
      · linarith
  · intro both
    obtain ⟨something, matched⟩ := both
    simp [something, matched]

/-- Only a title that names nothing is left alone. -/
theorem productDelta_eq_zero_iff :
    productDelta asked (storedFacet order title) = 0 ↔
      (normalizeProduct order title).isIdentified = false := by
  -- The boost and the penalty are both different from zero.
  obtain ⟨boost, penalty⟩ := deltas_distinct
  rw [productDelta_storedFacet]
  constructor
  · intro nothing
    by_contra something
    rw [if_neg something] at nothing
    split at nothing <;> linarith
  · intro nothing
    rw [if_pos nothing]

end Deltas

/-- The facet of the row was written by an upsert or by a backfill that was applied. -/
inductive FacetWritten (order : SetOrder) : IndexedDocument → Prop
  /-- The row is what an upsert left under its dedupe key. -/
  | upserted {store next : Store} {sourceType : SourceType} {title sourceUrl sourceRef : String}
      {document : IndexedDocument}
      (done : store.upsertDocument order sourceType title sourceUrl sourceRef =
        .ok (next, document)) : FacetWritten order document
  /-- The row is one of those a backfill went over. -/
  | backfilled {store next : Store} {collation : String → String → Bool}
      {summary : BackfillSummary} {document : IndexedDocument}
      (done : backfill order collation true store = .ok (next, summary))
      (member : document ∈ next.documents) : FacetWritten order document

/-- The stored facet of a document. -/
def IndexedDocument.facet (document : IndexedDocument) : ProductMeta where
  -- The columns that the reranker reads.
  family := document.productFamily
  brand := document.brand

section Agreement

variable {order : SetOrder} {asked : ProductScope} {document : IndexedDocument}

/-- Both writers leave the facet that is derived from the title. -/
theorem facet_of_written (written : FacetWritten order document) :
    document.facet = storedFacet order document.title := by
  have derived : document.FacetDerived order := by
    cases written with
    | upserted done =>
      -- A refreshed row and a new one both get the facet of the new title.
      obtain ⟨_, ⟨existing, _, _, rfl, _⟩ | ⟨_, rfl, _⟩⟩ := Store.upsertDocument_cases done
      · rfl
      · rfl
    | backfilled done member =>
      rw [(documents_backfill done).2, List.mem_map] at member
      obtain ⟨row, _, rfl⟩ := member
      exact facetDerived_rederived row
  unfold IndexedDocument.FacetDerived at derived
  rw [IndexedDocument.facet, storedFacet, ← derived]

/-- The candidate presents the document, whose facet one of the writers wrote. -/
def Presents (order : SetOrder) (source : ExtractionCandidate × IndexedDocument) : Prop :=
  source.1.documentTitle = some source.2.title ∧ FacetWritten order source.2

/-- The product boost decides like the title gate, over single titles and over candidates. -/
theorem facet_agrees_with_gate (order : SetOrder) :
    (∀ (title : String) (asked : ProductScope), asked.isIdentified = true →
      (productDelta asked (storedFacet order title) = -productMismatchPenalty ↔
        scopeMatches asked (normalizeProduct order title) = false) ∧
      (productDelta asked (storedFacet order title) = productMatchBoost ↔
        (normalizeProduct order title).isIdentified = true ∧
          scopeMatches asked (normalizeProduct order title) = true) ∧
      (productDelta asked (storedFacet order title) = 0 ↔
        (normalizeProduct order title).isIdentified = false)) ∧
    ∀ (query : String) (sources : List (ExtractionCandidate × IndexedDocument)),
      (∀ source ∈ sources, Presents order source) →
        (isOutOfCorpus order query (sources.map Prod.fst) = true ↔
          (extractQueryScope order query).isIdentified = true ∧
            ∀ source ∈ sources,
              productDelta (extractQueryScope order query) source.2.facet =
                -productMismatchPenalty) := by
  refine ⟨fun title asked identified => ?_, fun query sources presents => ?_⟩
  · exact ⟨productDelta_eq_penalty_iff identified, productDelta_eq_boost_iff,
      productDelta_eq_zero_iff⟩
  · by_cases identified : (extractQueryScope order query).isIdentified = true
    · -- Candidate by candidate the title fails to match exactly when the facet is penalized.
      simp only [isOutOfCorpus, identified, Bool.not_true, Bool.false_eq_true, if_false,
        List.all_map, List.all_eq_true, Function.comp_apply, Bool.not_eq_true', true_and]
      refine forall₂_congr fun source member => ?_
      obtain ⟨titled, written⟩ := presents source member
      rw [candidateScope_eq_title, ExtractionCandidate.title, titled, Option.getD_some,
        facet_of_written written, productDelta_eq_penalty_iff identified]
    · simp [isOutOfCorpus, identified]

/-- The file name of a manual that names a family. -/
def pikeTitle : String := "pike-service-manual.pdf"

/-- The document an empty store adds under that name. -/
def pikeDocument : IndexedDocument where
  -- The facets are the ones that the upsert derives.
  id := 1
  sourceType := .pdf
  title := pikeTitle
  sourceUrl := "pdfs/pike.pdf"
  sourceRef := "pike"
  productFamily := (deriveFacet .textual pikeTitle).1
  brand := (deriveFacet .textual pikeTitle).2

/-- The agreement for that document and a question about a brand outside the corpus. -/
theorem facet_agrees_with_gate_pike :
    isOutOfCorpus .textual boxQuestion [titledCandidate pikeTitle] = true ↔
      (extractQueryScope .textual boxQuestion).isIdentified = true ∧
        ∀ source ∈ [(titledCandidate pikeTitle, pikeDocument)],
          productDelta (extractQueryScope .textual boxQuestion) source.2.facet =
            -productMismatchPenalty := by
  -- The document is new to the store, so its facet is written by the upsert.
  have unknown : ∀ document ∈ Store.empty.documents, document.sourceRef ≠ "pike" := by
    simp [Store.empty]
  have added : FacetWritten .textual pikeDocument := .upserted (upsertDocument_of_missing unknown)
  refine (facet_agrees_with_gate .textual).2 boxQuestion
    [(titledCandidate pikeTitle, pikeDocument)] fun source member => ?_
  obtain rfl := List.mem_singleton.mp member
  exact ⟨rfl, added⟩

end Agreement

end TorqueFinder
