import TorqueFinder.Extraction.OutOfCorpusGate

/-! Texts that name several families, of which the matcher reads one. -/

namespace TorqueFinder

open PyText

/-- A token of the text names the family. -/
def NamesFamily (text family : String) : Prop :=
  ∃ entry ∈ familyTokens, entry.1 = family ∧ ∃ token ∈ entry.2, token ∈ tokens (lower text)

/-- The vocabulary is finite. -/
instance (text family : String) : Decidable (NamesFamily text family) :=
  inferInstanceAs (Decidable (∃ entry ∈ familyTokens, _ ∧ ∃ token ∈ entry.2, _))

/-- The families a text names, in the order of the vocabulary and without the ambiguous "guide". -/
def familiesNamed (text : String) : List String :=
  (familyTokens.map Prod.fst).filter fun family => family ≠ "guide" ∧ NamesFamily text family

/-- The families a text names, with the Guide brake where the text means the product. -/
def familiesRead (text : String) : List String :=
  -- A guide is only a product where the words around it say so.
  (familyTokens.map Prod.fst).filter fun family =>
    NamesFamily text family ∧ (family = "guide" → guideIsProduct (tokens (lower text)) = true)

/-- The title names every family the question names. -/
def NamesAllAsked (query : String) (candidate : ExtractionCandidate) : Prop :=
  ∀ family ∈ familiesNamed query, family ∈ familiesNamed candidate.title

/-- Both lists are finite. -/
instance (query : String) (candidate : ExtractionCandidate) :
    Decidable (NamesAllAsked query candidate) :=
  inferInstanceAs (Decidable (∀ family ∈ familiesNamed query, _))

/-- A question that names a family is not turned away while a title names all it asks. -/
def AdmitsNamedFamilies (order : SetOrder) (query : String)
    (candidates : List ExtractionCandidate) : Prop :=
  -- What the gate should do when a source names every family of the question.
  familiesNamed query ≠ [] → (∃ candidate ∈ candidates, NamesAllAsked query candidate) →
    isOutOfCorpus order query candidates = false

section Families

variable {order : SetOrder} {query text family : String} {candidate : ExtractionCandidate}
  {candidates : List ExtractionCandidate}

/-- No family goes by a generic token. -/
theorem familyTokens_not_generic :
    ∀ entry ∈ familyTokens, ∀ token ∈ entry.2, genericTitleTokens.contains token = false := by
  decide

/-- Every family has one entry in the vocabulary. -/
theorem familyTokens_nodup : (familyTokens.map Prod.fst).Nodup := by
  decide

/-- The family of a vocabulary entry is named when one of its tokens occurs. -/
theorem namesFamily_iff {entry : String × List String} (listed : entry ∈ familyTokens) :
    NamesFamily text entry.1 ↔ ∃ token ∈ entry.2, token ∈ tokens (lower text) := by
  constructor
  · intro named
    obtain ⟨other, alsoListed, same, occurs⟩ := named
    -- The vocabulary has one entry for the family.
    obtain rfl : other = entry :=
      List.inj_on_of_nodup_map familyTokens_nodup alsoListed listed same
    exact occurs
  · intro occurs
    exact ⟨entry, listed, rfl, occurs⟩

/-- The matcher reads the first of the families a text names. -/
theorem detectedFamily_eq_head (order : SetOrder) (text : String) :
    detectedFamily order text = (familiesRead text).head? := by
  -- The loop over the vocabulary stops at the first family that passes both tests.
  rw [detectedFamily, detectFamily, ← List.head?_filter, ← List.head?_map, familiesRead,
    List.filter_map]
  refine congrArg (fun entries : List (String × List String) => (entries.map Prod.fst).head?) ?_
  refine List.filter_congr fun entry listed => ?_
  have occurs : (entry.2.any ((order.enumerate (tokens (lower text))).filter
      fun token => !genericTitleTokens.contains token).contains) = true ↔
        NamesFamily text entry.1 := by
    rw [List.any_eq_true, namesFamily_iff listed]
    refine exists_congr fun token => and_congr_right fun member => ?_
    rw [List.contains_iff_mem, List.mem_filter, order.mem_enumerate,
      familyTokens_not_generic entry listed token member]
    simp
  rw [Bool.eq_iff_iff, Bool.and_eq_true, occurs]
  simp [imp_iff_not_or]

/-- A question that names a family is read as asking for one. -/
theorem familiesRead_ne_nil (named : familiesNamed text ≠ []) : familiesRead text ≠ [] := by
  obtain ⟨family, member⟩ := List.exists_mem_of_ne_nil _ named
  rw [familiesNamed, List.mem_filter] at member
  -- A family other than the ambiguous one passes the second test for nothing.
  have read : family ∈ familiesRead text := by
    rw [familiesRead, List.mem_filter]
    refine ⟨member.1, ?_⟩
    have both := member.2
    simp only [decide_eq_true_eq] at both ⊢
    exact ⟨both.2, fun guide => absurd guide both.1⟩
  exact List.ne_nil_of_mem read

/-- The title reads as the family asked first, or as no family and no other brand. -/
def ReadsAsAsked (order : SetOrder) (query : String) (candidate : ExtractionCandidate) : Prop :=
  -- The first family decides, and without one the brand.
  (familiesRead candidate.title).head? = (familiesRead query).head? ∨
    (familiesRead candidate.title = [] ∧
      (detectedBrand order query = none ∨ detectedBrand order candidate.title = none ∨
        detectedBrand order candidate.title = detectedBrand order query))

/-- Lists and brands can be compared. -/
instance (order : SetOrder) (query : String) (candidate : ExtractionCandidate) :
    Decidable (ReadsAsAsked order query candidate) :=
  inferInstanceAs (Decidable (_ ∨ _))

/-- A title that reads as asked is one that does not conflict with the question. -/
theorem readsAsAsked_iff (named : familiesNamed query ≠ []) :
    ReadsAsAsked order query candidate ↔
      ¬ (extractQueryScope order query).Conflicts (candidateScope order candidate) := by
  have asked : (familiesRead query).head? ≠ none := by
    rw [ne_eq, List.head?_eq_none_iff]
    exact familiesRead_ne_nil named
  simp only [ReadsAsAsked, ProductScope.Conflicts, candidateScope_eq_title, normalizeProduct_eq,
    extractQueryScope_eq, detectedScope_family, detectedScope_brand, detectedFamily_eq_head]
  -- With a family asked, brands are only compared when the title names no family.
  generalize (familiesRead query).head? = askedFamily at asked ⊢
  generalize detectedBrand order query = askedBrand
  generalize detectedBrand order candidate.title = brand
  cases familiesRead candidate.title with
  | nil => grind
  | cons family rest => grind

/-- A question that names a family is admitted exactly when some title reads as asked. -/
theorem isOutOfCorpus_eq_false_iff (named : familiesNamed query ≠ []) :
    isOutOfCorpus order query candidates = false ↔
      ∃ candidate ∈ candidates, ReadsAsAsked order query candidate := by
  have family : (extractQueryScope order query).family ≠ none := by
    rw [extractQueryScope_eq, detectedScope_family, detectedFamily_eq_head, ne_eq,
      List.head?_eq_none_iff]
    exact familiesRead_ne_nil named
  have identified : (extractQueryScope order query).isIdentified = true :=
    isIdentified_iff.mpr (Or.inl family)
  -- The gate abstains when every title conflicts, since brands alone are not asked for.
  rw [← Bool.not_eq_true, isOutOfCorpus_iff identified]
  simp only [family, false_and, or_false, readsAsAsked_iff named, not_forall, exists_prop]

/-- Shared manuals are admitted unless every title reads as another family than the one asked. -/
theorem admitsNamedFamilies_iff (order : SetOrder) (query : String)
    (candidates : List ExtractionCandidate) :
    AdmitsNamedFamilies order query candidates ↔
      familiesNamed query = [] ∨ (∀ candidate ∈ candidates, ¬ NamesAllAsked query candidate) ∨
        ∃ candidate ∈ candidates, ReadsAsAsked order query candidate := by
  unfold AdmitsNamedFamilies
  by_cases nothing : familiesNamed query = []
  · simp [nothing]
  · rw [isOutOfCorpus_eq_false_iff nothing]
    -- The promise is only made when some title names all that is asked.
    by_cases shared : ∃ candidate ∈ candidates, NamesAllAsked query candidate
    · simp only [nothing, not_false_eq_true, shared, true_implies, false_or, ne_eq]
      rw [or_iff_right]
      intro none
      obtain ⟨candidate, member, names⟩ := shared
      exact none candidate member names
    · have none : ∀ candidate ∈ candidates, ¬ NamesAllAsked query candidate :=
        fun candidate member names => shared ⟨candidate, member, names⟩
      constructor
      · intro _
        exact Or.inr (Or.inl none)
      · intro _ _ named
        exact absurd named shared

/-- A question about a fork that shares a manual. -/
def sharedQuestion : String := "lyrik air spring torque?"

/-- A manual of two forks that names the asked one second in the order of the vocabulary. -/
def sharedManual : ExtractionCandidate := titledCandidate "pike-lyrik-service-manual.pdf"

/-- A manual that names the asked fork is turned away when it names another one earlier. -/
theorem not_admitsNamedFamilies :
    ¬ ∀ (order : SetOrder) (query : String) (candidates : List ExtractionCandidate),
      AdmitsNamedFamilies order query candidates := by
  -- The title is read as the pike only, and the question asks for the lyrik.
  intro always
  have admitted := always .textual sharedQuestion [sharedManual] (by decide +kernel)
    ⟨sharedManual, by decide, by decide +kernel⟩
  exact absurd admitted (by decide +kernel)

end Families

end TorqueFinder
