import Mathlib.Data.List.Basic
import TorqueFinder.Retrieval.ProductMatch

/-! When a product scope depends on the text alone, and what a failed match means. -/

namespace TorqueFinder

open PyText

section Detection

variable (order : SetOrder) (text : String)

/-- The brand the matcher reads off a text. -/
def detectedBrand : Option String :=
  (detectBrand (lower text) (order.enumerate (tokens (lower text)))).1

/-- The family the matcher reads off a text. -/
def detectedFamily : Option String :=
  -- The family is looked for in the enumerated set of tokens.
  detectFamily
    ((order.enumerate (tokens (lower text))).filter fun token => !genericTitleTokens.contains token)
    (tokens (lower text))

/-- A brand is recognized exactly when one is returned. -/
theorem detectBrand_recognized (lowered : String) (tokens : List String) :
    (detectBrand lowered tokens).2 = (detectBrand lowered tokens).1.isSome := by
  -- Every branch that names a brand also reports it.
  unfold detectBrand
  repeat' split
  all_goals rfl

/-- The scope made of a detected family and brand. -/
def detectedScope (brandConfidence : Confidence) (family brand : Option String) : ProductScope :=
  -- The confidence of a family goes before that of a brand.
  if family = none ∧ brand = none then {}
  else { family, brand, confidence := if family ≠ none then familyConfidence else brandConfidence }

/-- A detected scope carries the detected family. -/
@[simp] theorem detectedScope_family (brandConfidence : Confidence) (family brand : Option String) :
    (detectedScope brandConfidence family brand).family = family := by
  unfold detectedScope
  split
  -- The empty scope is only taken without a family.
  · rename_i nothing
    exact nothing.1.symm
  · rfl

/-- A detected scope carries the detected brand. -/
@[simp] theorem detectedScope_brand (brandConfidence : Confidence) (family brand : Option String) :
    (detectedScope brandConfidence family brand).brand = brand := by
  unfold detectedScope
  split
  -- The empty scope is only taken without a brand.
  · rename_i nothing
    exact nothing.2.symm
  · rfl

/-- The empty set has nothing to iterate over. -/
@[simp] theorem SetOrder.enumerate_nil : order.enumerate [] = [] :=
  List.eq_nil_iff_forall_not_mem.mpr fun item member =>
    List.not_mem_nil ((order.mem_enumerate [] item).mp member)

/-- An empty text has no tokens. -/
@[simp] theorem tokens_lower_empty : tokens (lower "") = [] := by decide

/-- No brand is detected in an empty text. -/
@[simp] theorem detectedBrand_empty : detectedBrand order "" = none := by
  rw [detectedBrand, tokens_lower_empty, order.enumerate_nil]
  decide

/-- No family is detected in an empty text. -/
@[simp] theorem detectedFamily_empty : detectedFamily order "" = none := by
  rw [detectedFamily, tokens_lower_empty, order.enumerate_nil]
  decide

/-- The scope of a title is made of what is detected in it. -/
theorem normalizeProduct_eq :
    normalizeProduct order text =
      detectedScope titleBrandConfidence (detectedFamily order text)
        (detectedBrand order text) := by
  -- The empty title is answered early, and nothing would be detected in it.
  unfold normalizeProduct
  split
  · rename_i empty
    simp [empty, detectedScope]
  · rfl

/-- The scope of a question is made of what is detected in it. -/
theorem extractQueryScope_eq :
    extractQueryScope order text =
      detectedScope queryBrandConfidence (detectedFamily order text)
        (detectedBrand order text) := by
  -- The empty question is answered early, and recognition is the presence of a brand.
  unfold extractQueryScope
  split
  · rename_i empty
    simp [empty, detectedScope]
  · simp only [detectBrand_recognized, Option.isSome_eq_false_iff, Option.isNone_iff_eq_none]
    rfl

end Detection

section Determinism

variable {text : String} {first second : SetOrder}

/-- The text contains a brand phrase, or no two different brand tokens. -/
def NamesOneBrand (text : String) : Prop :=
  -- A phrase is looked for first, and in a fixed order.
  (∃ phrase ∈ brandPhrases, OccursIn phrase.1 (lower text)) ∨
    ∀ token ∈ tokens (lower text), ∀ other ∈ tokens (lower text),
      isBrandToken token = true → isBrandToken other = true → token = other

/-- Phrases and tokens are finite lists. -/
instance (text : String) : Decidable (NamesOneBrand text) :=
  inferInstanceAs (Decidable (_ ∨ _))

/-- The order that visits one chosen string first. -/
def SetOrder.startingWith (front : String) : SetOrder where
  -- Python may enumerate a set from any of its members.
  enumerate items := if front ∈ items then front :: items.dedup.erase front else items.dedup
  nodup items := by
    split
    · exact List.nodup_cons.mpr
        ⟨(List.nodup_dedup items).not_mem_erase, (List.nodup_dedup items).erase front⟩
    · exact List.nodup_dedup items
  mem_enumerate items item := by
    split
    · rename_i present
      by_cases same : item = front
      · simp [same, present]
      · simp [same, List.mem_erase_of_ne same]
    · exact List.mem_dedup

/-- The first element passing a test is the same in two lists with a single passing element. -/
theorem find?_eq_of_unique {α : Type*} {test : α → Bool} {list other : List α}
    (same : ∀ element, element ∈ list ↔ element ∈ other)
    (unique : ∀ element ∈ list, ∀ another ∈ list,
      test element = true → test another = true → element = another) :
    list.find? test = other.find? test := by
  -- Both searches end at the one element that passes, or neither finds any.
  cases found : list.find? test with
  | none =>
    refine (List.find?_eq_none.mpr fun element member => ?_).symm
    exact List.find?_eq_none.mp found element ((same element).mpr member)
  | some element =>
    have member := List.mem_of_find?_eq_some found
    have passed := List.find?_some found
    have available : (other.find? test).isSome :=
      List.find?_isSome.mpr ⟨element, (same element).mp member, passed⟩
    obtain ⟨another, alsoFound⟩ := Option.isSome_iff_exists.mp available
    rw [alsoFound, unique element member another
      ((same another).mpr (List.mem_of_find?_eq_some alsoFound)) passed (List.find?_some alsoFound)]

/-- The family never depends on the order, which is only asked for membership. -/
theorem detectedFamily_eq (first second : SetOrder) (text : String) :
    detectedFamily first text = detectedFamily second text := by
  -- The detector asks the token set for members, which every order answers alike.
  have same : ∀ token,
      ((first.enumerate (tokens (lower text))).filter
        fun token => !genericTitleTokens.contains token).contains token =
      ((second.enumerate (tokens (lower text))).filter
        fun token => !genericTitleTokens.contains token).contains token := by
    intro token
    rw [Bool.eq_iff_iff, List.contains_iff_mem, List.contains_iff_mem, List.mem_filter,
      List.mem_filter, first.mem_enumerate, second.mem_enumerate]
  simp only [detectedFamily, detectFamily, funext same]

/-- A text that names one brand gives that brand in every order. -/
theorem detectedBrand_eq (oneBrand : NamesOneBrand text) (first second : SetOrder) :
    detectedBrand first text = detectedBrand second text := by
  unfold detectedBrand detectBrand
  rcases oneBrand with ⟨phrase, listed, occurs⟩ | unique
  · -- A phrase decides before any token is looked at.
    have found : (brandPhrases.find? fun phrase => OccursIn phrase.1 (lower text)).isSome :=
      List.find?_isSome.mpr ⟨phrase, listed, decide_eq_true occurs⟩
    obtain ⟨chosen, decided⟩ := Option.isSome_iff_exists.mp found
    rw [decided]
  -- Without regard to phrases, the one brand token is found in every order.
  · have tokenSame : (first.enumerate (tokens (lower text))).find? isBrandToken =
        (second.enumerate (tokens (lower text))).find? isBrandToken := by
      refine find?_eq_of_unique (fun token => ?_) fun token member other also => ?_
      · rw [first.mem_enumerate, second.mem_enumerate]
      · exact unique token ((first.mem_enumerate _ _).mp member) other
          ((first.mem_enumerate _ _).mp also)
    rw [tokenSame]

/-- Without a phrase, a brand token that is visited first is the detected brand. -/
theorem detectedBrand_startingWith {token : String}
    (noPhrase : ∀ phrase ∈ brandPhrases, ¬ OccursIn phrase.1 (lower text))
    (member : token ∈ tokens (lower text)) (brand : isBrandToken token = true) :
    detectedBrand (.startingWith token) text = some token := by
  -- The phrase scan finds nothing, so the first visited token decides.
  have none : (brandPhrases.find? fun phrase => OccursIn phrase.1 (lower text)) = none :=
    List.find?_eq_none.mpr fun phrase listed => by simpa using noPhrase phrase listed
  simp only [detectedBrand, detectBrand, none, SetOrder.startingWith, if_pos member,
    List.find?_cons, brand]

/-- The brand is the same in every order exactly when the text names one brand. -/
theorem detectedBrand_eq_iff :
    (∀ first second, detectedBrand first text = detectedBrand second text) ↔
      NamesOneBrand text := by
  constructor
  · intro same
    by_contra several
    simp only [NamesOneBrand, not_or, not_exists, not_and, not_forall] at several
    obtain ⟨noPhrase, token, member, other, also, brand, alsoBrand, different⟩ := several
    -- Each of two brand tokens is found by the order that visits it first.
    have swapped := same (.startingWith token) (.startingWith other)
    rw [detectedBrand_startingWith noPhrase member brand,
      detectedBrand_startingWith noPhrase also alsoBrand] at swapped
    exact different (Option.some.inj swapped)
  · intro oneBrand first second
    exact detectedBrand_eq oneBrand first second

end Determinism

section Matching

variable {asked candidate : ProductScope}

/-- Both name a family and the families differ, or else both name a brand and the brands differ. -/
def ProductScope.Conflicts (asked candidate : ProductScope) : Prop :=
  -- Brands are only compared where the families cannot be.
  (asked.family ≠ none ∧ candidate.family ≠ none ∧ asked.family ≠ candidate.family) ∨
    (¬ (asked.family ≠ none ∧ candidate.family ≠ none) ∧
      asked.brand ≠ none ∧ candidate.brand ≠ none ∧ asked.brand ≠ candidate.brand)

/-- Optional strings can be compared. -/
instance (asked candidate : ProductScope) : Decidable (asked.Conflicts candidate) :=
  inferInstanceAs (Decidable (_ ∨ _))

/-- A scope that names a family and leaves its brand open. -/
def ProductScope.OmitsBrand (scope : ProductScope) : Prop :=
  scope.family ≠ none ∧ scope.brand = none

/-- Optional strings can be compared. -/
instance (scope : ProductScope) : Decidable scope.OmitsBrand :=
  inferInstanceAs (Decidable (_ ∧ _))

/-- An identified scope names a family or a brand. -/
theorem isIdentified_iff {scope : ProductScope} :
    scope.isIdentified = true ↔ scope.family ≠ none ∨ scope.brand ≠ none := by
  -- Two options are some or none.
  cases scope with
  | mk family brand confidence =>
    cases family <;> cases brand <;> simp [ProductScope.isIdentified]

/-- A match fails on a conflict, or when only a brand is asked and the title omits its brand. -/
theorem scopeMatches_eq_false_iff (identified : asked.isIdentified = true) :
    scopeMatches asked candidate = false ↔
      asked.Conflicts candidate ∨ (asked.family = none ∧ candidate.OmitsBrand) := by
  -- The sixteen ways in which the four names can be present or absent.
  obtain ⟨askedFamily, askedBrand, _⟩ := asked
  obtain ⟨candidateFamily, candidateBrand, _⟩ := candidate
  cases askedFamily <;> cases askedBrand <;> cases candidateFamily <;> cases candidateBrand <;>
    simp [scopeMatches, ProductScope.isIdentified, ProductScope.Conflicts,
      ProductScope.OmitsBrand] at identified ⊢

end Matching

end TorqueFinder
