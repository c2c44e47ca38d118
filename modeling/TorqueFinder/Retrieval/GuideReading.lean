import TorqueFinder.Retrieval.WordRecognition

/-! When the word "guide" is read as the brake, and where the reading leaves its stated rule. -/

namespace TorqueFinder

open PyText

section Rule

variable (tokenList : List String)

/-- Some "guide" is directly followed by "brake" or by one of the brake's variants. -/
def FollowedByProduct : Prop :=
  -- The next token settles that the word names the brake.
  ∃ front back, tokenList = front ++ "guide" :: back ∧
    ∃ next, back.head? = some next ∧ (next = "brake" ∨ next ∈ guideProductVariants)

/-- Some "guide" has a token behind it and no word for a kind of document directly in front. -/
def LeadsReference : Prop :=
  -- Some token follows, and the one before is no word of the genre.
  ∃ front back, tokenList = front ++ "guide" :: back ∧ back ≠ [] ∧
    ∀ previous, front.getLast? = some previous → previous ∉ guideGenreContext

/-- The stated rule: some "guide" is followed by the product or leads a reference. -/
def ReadsAsProduct : Prop :=
  -- The three ways that the docstring gives.
  ∃ front back, tokenList = front ++ "guide" :: back ∧
    (back.head? = some "brake" ∨
      (∃ next, back.head? = some next ∧ next ∈ guideProductVariants) ∨
      (back ≠ [] ∧ ∀ previous, front.getLast? = some previous → previous ∉ guideGenreContext))

/-- A "guide" that leads a reference never stands alone as the evidence for the product. -/
def LeadsOnlyBesideProduct : Prop := LeadsReference tokenList → FollowedByProduct tokenList

/-- The rule has the two cases of a following product and of a leading "guide". -/
theorem readsAsProduct_iff :
    ReadsAsProduct tokenList ↔ FollowedByProduct tokenList ∨ LeadsReference tokenList := by
  -- The rule has three alternatives, of which the first two are a product behind the word.
  constructor
  · intro rule
    obtain ⟨front, back, split, brake | ⟨next, head, variant⟩ | ⟨some, clear⟩⟩ := rule
    · exact Or.inl ⟨front, back, split, "brake", brake, Or.inl rfl⟩
    · exact Or.inl ⟨front, back, split, next, head, Or.inr variant⟩
    · exact Or.inr ⟨front, back, split, some, clear⟩
  · intro cases
    rcases cases with ⟨front, back, split, next, head, rfl | variant⟩ |
      ⟨front, back, split, some, clear⟩
    · exact ⟨front, back, split, Or.inl head⟩
    · exact ⟨front, back, split, Or.inr (Or.inl ⟨next, head, variant⟩)⟩
    · exact ⟨front, back, split, Or.inr (Or.inr ⟨some, clear⟩)⟩

end Rule

section Loop

variable {tokenList : List String}

/-- A following product is seen at the head or further on. -/
theorem followedByProduct_cons (head : String) (tail : List String) :
    FollowedByProduct (head :: tail) ↔
      (head = "guide" ∧ ∃ next, tail.head? = some next ∧
        (next = "brake" ∨ next ∈ guideProductVariants)) ∨ FollowedByProduct tail := by
  -- The word stands at the head, or in the tail.
  constructor
  · intro followed
    obtain ⟨front, back, split, follows⟩ := followed
    cases front with
    | nil =>
      obtain ⟨rfl, rfl⟩ := List.cons.inj split
      exact Or.inl ⟨rfl, follows⟩
    | cons first front =>
      obtain ⟨rfl, rfl⟩ := List.cons.inj split
      exact Or.inr ⟨front, back, rfl, follows⟩
  · intro cases
    rcases cases with ⟨rfl, follows⟩ | ⟨front, back, rfl, follows⟩
    · exact ⟨[], tail, rfl, follows⟩
    · exact ⟨head :: front, back, rfl, follows⟩

/-- The loop answers yes only for a following product, whatever token came before. -/
theorem guideIsProductAfter_iff (prevTok : Option String) (tokenList : List String) :
    guideIsProductAfter prevTok tokenList = true ↔ FollowedByProduct tokenList := by
  -- Every branch behind the two tests for a product goes on to the next token.
  induction tokenList generalizing prevTok with
  | nil => simp [guideIsProductAfter, FollowedByProduct]
  | cons head tail ih =>
    rw [followedByProduct_cons, guideIsProductAfter]
    by_cases word : head = "guide"
    · rw [if_neg (not_not.mpr word)]
      cases tail with
      | nil => simp [guideIsProductAfter, FollowedByProduct]
      | cons next rest =>
        by_cases brake : next = "brake"
        · simp [word, brake]
        · by_cases variant : next ∈ guideProductVariants
          · simp [word, brake, variant]
          · simp [word, brake, variant, ih]
    · rw [if_pos word, ih]
      simp [word]

/-- The word is read as the product exactly where a product follows it. -/
theorem guideIsProduct_iff : guideIsProduct tokenList = true ↔ FollowedByProduct tokenList :=
  guideIsProductAfter_iff none tokenList

/-- The reading follows the rule exactly when no leading "guide" stands alone as the evidence. -/
theorem guideIsProduct_follows_rule_iff :
    (guideIsProduct tokenList = true ↔ ReadsAsProduct tokenList) ↔
      LeadsOnlyBesideProduct tokenList := by
  -- The code has the first two ways, so the third must not stand alone.
  rw [guideIsProduct_iff, readsAsProduct_iff, LeadsOnlyBesideProduct]
  tauto

end Loop

section Family

variable {order : SetOrder} {text : String}

/-- The families the matcher looks for before it looks for the brake. -/
def earlierFamilies : List (String × List String) :=
  familyTokens.takeWhile fun entry => entry.1 ≠ "guide"

/-- The families the matcher looks for after the brake. -/
def laterFamilies : List (String × List String) :=
  (familyTokens.dropWhile fun entry => entry.1 ≠ "guide").tail

/-- No family in front of the brake in the table has a surface among the tokens of the text. -/
def NamesNoEarlierFamily (text : String) : Prop :=
  ∀ entry ∈ earlierFamilies, ∀ surface ∈ entry.2, surface ∉ tokens (lower text)

/-- The table and the tokens are finite lists. -/
instance (text : String) : Decidable (NamesNoEarlierFamily text) :=
  inferInstanceAs (Decidable (∀ entry ∈ _, _))

/-- The brake stands between the earlier and the later families of the table. -/
theorem familyTokens_split :
    familyTokens = earlierFamilies ++ ("guide", ["guide"]) :: laterFamilies := by decide +kernel

/-- No later family has the name of the brake. -/
theorem laterFamilies_ne_guide : ∀ entry ∈ laterFamilies, entry.1 ≠ "guide" := by decide +kernel

/-- A following product makes the word a token of the text. -/
theorem guide_mem_of_followed {tokenList : List String} (followed : FollowedByProduct tokenList) :
    "guide" ∈ tokenList := by
  -- The followed word itself is a token.
  obtain ⟨front, back, rfl, _⟩ := followed
  simp

/-- Without an earlier family, the family is the brake exactly when the word is read so. -/
theorem detectedFamily_guide_iff (unnamed : NamesNoEarlierFamily text) :
    detectedFamily order text = some "guide" ↔ guideIsProduct (tokens (lower text)) = true := by
  -- The search runs through the earlier families, the brake and the later families.
  let seen : String × List String → Bool := fun entry =>
    entry.2.any ((order.enumerate (tokens (lower text))).filter
      fun token => !genericTitleTokens.contains token).contains &&
      !(entry.1 == "guide" && !guideIsProduct (tokens (lower text)))
  have shape : detectedFamily order text = (familyTokens.find? seen).map Prod.fst := rfl
  have member : ∀ entry ∈ earlierFamilies ++ ("guide", ["guide"]) :: laterFamilies,
      entry ∈ familyTokens := fun entry inside => familyTokens_split ▸ inside
  -- No earlier family is named.
  have earlier : earlierFamilies.find? seen = none := by
    rw [List.find?_eq_none]
    intro entry inside found
    have listed := member entry (List.mem_append_left _ inside)
    obtain ⟨surface, given, present⟩ :=
      (surface_seen_iff listed).mp (Bool.and_eq_true _ _ ▸ found).1
    exact unnamed entry inside surface given present
  rw [shape, familyTokens_split, List.find?_append, earlier, Option.none_or, List.find?_cons]
  cases product : guideIsProduct (tokens (lower text)) with
  | true =>
    -- A following product makes the word a token, so the brake is found.
    have word := guide_mem_of_followed (guideIsProduct_iff.mp product)
    have listed := member ("guide", ["guide"]) (by simp)
    have found : seen ("guide", ["guide"]) = true := by
      rw [Bool.and_eq_true, surface_seen_iff listed, product]
      exact ⟨⟨"guide", by simp, word⟩, rfl⟩
    simp [found]
  -- The brake is skipped, and no later family has its name.
  | false =>
    have skipped : seen ("guide", ["guide"]) = false := by simp [seen, product]
    rw [skipped]
    simp only [Bool.false_eq_true, iff_false]
    intro found
    obtain ⟨entry, later, named⟩ := Option.map_eq_some_iff.mp found
    exact laterFamilies_ne_guide entry (List.mem_of_find?_eq_some later) named

/--
Both the reading of a token list and the family of a text follow the rule exactly when no leading
"guide" stands alone as the evidence.
-/
theorem guide_rule_iff (order : SetOrder) (text : String) :
    (∀ tokenList, (guideIsProduct tokenList = true ↔ ReadsAsProduct tokenList) ↔
      LeadsOnlyBesideProduct tokenList) ∧
    (NamesNoEarlierFamily text →
      ((detectedFamily order text = some "guide" ↔ ReadsAsProduct (tokens (lower text))) ↔
        LeadsOnlyBesideProduct (tokens (lower text)))) := by
  -- No earlier family hides the reading of the word.
  refine ⟨fun tokenList => guideIsProduct_follows_rule_iff, fun unnamed => ?_⟩
  rw [detectedFamily_guide_iff unnamed]
  exact guideIsProduct_follows_rule_iff

/-- The rule for a question that names no earlier family. -/
theorem guide_rule_iff_caliper :
    (detectedFamily .textual "Guide caliper bolt" = some "guide" ↔
      ReadsAsProduct (tokens (lower "Guide caliper bolt"))) ↔
        LeadsOnlyBesideProduct (tokens (lower "Guide caliper bolt")) :=
  -- The text names no family before guide.
  (guide_rule_iff .textual "Guide caliper bolt").2 (by decide +kernel)

/-- A leading "guide" reaches the end of the loop body without being read as the product. -/
theorem not_guide_rule :
    ¬ ∀ tokenList, guideIsProduct tokenList = true ↔ ReadsAsProduct tokenList := by
  intro always
  -- The word leads, and no product follows it.
  have rule : ReadsAsProduct ["guide", "caliper", "bolt"] :=
    ⟨[], ["caliper", "bolt"], rfl, Or.inr (Or.inr ⟨by simp, by simp⟩)⟩
  exact absurd ((always ["guide", "caliper", "bolt"]).mpr rule) (by decide)

end Family

end TorqueFinder
