import TorqueFinder.Lib.PyTextLaws
import TorqueFinder.Retrieval.ProductMatchLaws

/-! Which vocabulary entries the matcher recognizes by their words, and which it never can. -/

namespace TorqueFinder

open PyText

/-- The words of a vocabulary entry: its maximal lowercase alphanumeric runs. -/
def vocabularyWords (entry : String) : List String := findRuns isWordChar entry

/-- The words of an entry are consecutive tokens of a text, whatever stands between them. -/
def HasWords (text entry : String) : Prop := vocabularyWords entry <:+: tokens (lower text)

/-- Consecutive tokens can be searched for. -/
instance (text entry : String) : Decidable (HasWords text entry) :=
  inferInstanceAs (Decidable (_ <:+: _))

/-- The single brands of the vocabulary. -/
def singleBrands : List String := inCorpusBrands ++ outOfCorpusBrands

/-- The brands of the vocabulary, single or phrased. -/
def brandEntries : List String := singleBrands ++ brandPhrases.map Prod.fst

/-- Every entry whose words a text holds is recognized, and only such entries are returned. -/
structure RecognizesWords (order : SetOrder) (text : String) : Prop where
  brand_complete : ∀ entry ∈ brandEntries, HasWords text entry →
    (extractQueryScope order text).isIdentified = true ∧
      (extractQueryScope order text).brand ≠ none
  family_complete : ∀ entry ∈ familyTokens, ∀ surface ∈ entry.2, surface ≠ "guide" →
    HasWords text surface →
    (extractQueryScope order text).isIdentified = true ∧
      (extractQueryScope order text).family ≠ none
  brand_sound : ∀ brand, (extractQueryScope order text).brand = some brand →
    (brand ∈ singleBrands ∧ HasWords text brand) ∨
      ∃ phrase ∈ brandPhrases, phrase.2 = brand ∧ HasWords text phrase.1
  family_sound : ∀ family, (extractQueryScope order text).family = some family →
    ∃ entry ∈ familyTokens, entry.1 = family ∧ ∃ surface ∈ entry.2, HasWords text surface

/-- A text that spells a brand phrase with single spaces, or has a brand as a token. -/
def SpellsBrand (text : String) : Prop :=
  -- A phrase may stand anywhere in the text, and a token only as a word.
  (∃ phrase ∈ brandPhrases, OccursIn phrase.1 (lower text)) ∨
    ∃ token ∈ tokens (lower text), isBrandToken token = true

/-- A text that has a family surface as a token, where "guide" has to read as the brake. -/
def SpellsFamily (text : String) : Prop :=
  -- One of the spellings of the family is a token.
  ∃ entry ∈ familyTokens, (∃ surface ∈ entry.2, surface ∈ tokens (lower text)) ∧
    (entry.1 = "guide" → guideIsProduct (tokens (lower text)) = true)

/--
A text that uses entries of several words only where the matcher can see them as words.

A brand of several words needs the spelling of a phrase or another brand beside it, a family
surface of several words needs another family, and the first phrase found has to be whole words.
-/
structure SpelledForMatcher (text : String) : Prop where
  brands : ∀ entry ∈ brandEntries, 1 < (vocabularyWords entry).length → HasWords text entry →
    SpellsBrand text
  families : ∀ entry ∈ familyTokens, ∀ surface ∈ entry.2, 1 < (vocabularyWords surface).length →
    HasWords text surface → SpellsFamily text
  phrase : ∀ phrase,
    (brandPhrases.find? fun phrase => OccursIn phrase.1 (lower text)) = some phrase →
      HasWords text phrase.1

section Vocabulary

/-- Every brand is one word, which is the brand itself, or several. -/
theorem brandEntries_words : ∀ entry ∈ brandEntries,
    vocabularyWords entry = [entry] ∧ isBrandToken entry = true ∨
      1 < (vocabularyWords entry).length := by decide +kernel

/-- Every family surface is one word, which is the surface itself, or several. -/
theorem surfaces_words : ∀ entry ∈ familyTokens, ∀ surface ∈ entry.2,
    vocabularyWords surface = [surface] ∨ 1 < (vocabularyWords surface).length := by
  decide +kernel

/-- The surface "guide" belongs to the family of that name alone, and none is a generic token. -/
theorem surfaces_guide : ∀ entry ∈ familyTokens, ∀ surface ∈ entry.2,
    (entry.1 = "guide" ↔ surface = "guide") ∧ genericTitleTokens.contains surface = false := by
  decide +kernel

/-- A phrase and the token it stands for have the same words. -/
theorem brandPhrases_words :
    ∀ phrase ∈ brandPhrases, vocabularyWords phrase.2 = vocabularyWords phrase.1 := by
  decide +kernel

variable {text token : String}

/-- A token of a text is an entry of one word that the text has. -/
theorem hasWords_of_token (member : token ∈ tokens (lower text)) : HasWords text token := by
  rw [HasWords, vocabularyWords, findRuns_of_mem member]
  exact (List.singleton_infix_iff token _).mpr member

/-- An entry of one word that a text has is a token of it. -/
theorem token_of_hasWords (single : vocabularyWords token = [token])
    (held : HasWords text token) : token ∈ tokens (lower text) := by
  -- A single word stands among the tokens of the text.
  rw [HasWords, single] at held
  exact (List.singleton_infix_iff token _).mp held

end Vocabulary

section Detection

variable {order : SetOrder} {text : String}

/-- A brand is detected in exactly the texts that spell one. -/
theorem detectedBrand_ne_none_iff : detectedBrand order text ≠ none ↔ SpellsBrand text := by
  unfold detectedBrand detectBrand SpellsBrand
  cases found : brandPhrases.find? fun phrase => OccursIn phrase.1 (lower text) with
  | some phrase =>
    have listed := List.mem_of_find?_eq_some found
    have occurs : OccursIn phrase.1 (lower text) := by simpa using List.find?_some found
    exact iff_of_true (by simp) (Or.inl ⟨phrase, listed, occurs⟩)
  | none =>
    -- Without a phrase the single brands among the tokens decide.
    have noPhrase : ¬ ∃ phrase ∈ brandPhrases, OccursIn phrase.1 (lower text) := by
      intro present
      obtain ⟨phrase, listed, occurs⟩ := present
      exact List.find?_eq_none.mp found phrase listed (by simpa using occurs)
    rw [or_iff_right noPhrase]
    have tokensOnly : ((order.enumerate (tokens (lower text))).find? isBrandToken).isSome ↔
        ∃ token ∈ tokens (lower text), isBrandToken token = true := by
      rw [List.find?_isSome]
      simp only [order.mem_enumerate]
    rw [← tokensOnly]
    cases (order.enumerate (tokens (lower text))).find? isBrandToken <;> simp

/-- The tokens that name families are the tokens of the text. -/
theorem surface_seen_iff {entry : String × List String} (listed : entry ∈ familyTokens) :
    (entry.2.any ((order.enumerate (tokens (lower text))).filter
        fun token => !genericTitleTokens.contains token).contains) = true ↔
      ∃ surface ∈ entry.2, surface ∈ tokens (lower text) := by
  rw [List.any_eq_true]
  refine exists_congr fun surface => and_congr_right fun inside => ?_
  -- No surface is dropped as a generic token.
  have specific := (surfaces_guide entry listed surface inside).2
  rw [List.contains_iff_mem, List.mem_filter, order.mem_enumerate, specific]
  simp

/-- A family is detected in exactly the texts that spell one. -/
theorem detectedFamily_ne_none_iff : detectedFamily order text ≠ none ↔ SpellsFamily text := by
  -- A family is found when the test of the search passes for some entry of the table.
  unfold detectedFamily detectFamily SpellsFamily
  rw [Option.ne_none_iff_isSome, Option.isSome_map, List.find?_isSome]
  refine exists_congr fun entry => and_congr_right fun listed => ?_
  rw [Bool.and_eq_true, surface_seen_iff listed]
  refine and_congr_right fun _ => ?_
  cases guideIsProduct (tokens (lower text)) <;> simp

/-- A detected brand stands for the first phrase found, or is a brand among the tokens. -/
theorem detectedBrand_source {brand : String} (detected : detectedBrand order text = some brand) :
    (∃ phrase, (brandPhrases.find? fun phrase => OccursIn phrase.1 (lower text)) = some phrase ∧
      phrase.2 = brand) ∨ (brand ∈ singleBrands ∧ brand ∈ tokens (lower text)) := by
  -- A phrase is looked for before the tokens.
  unfold detectedBrand detectBrand at detected
  split at detected
  · rename_i phrase normalized found
    exact Or.inl ⟨_, found, Option.some.inj detected⟩
  · split at detected
    · rename_i token found
      obtain rfl := Option.some.inj detected
      have known : isBrandToken token = true := List.find?_some found
      have member := (order.mem_enumerate _ _).mp (List.mem_of_find?_eq_some found)
      rw [isBrandToken, Bool.or_eq_true, List.contains_iff_mem, List.contains_iff_mem,
        ← List.mem_append] at known
      exact Or.inr ⟨known, member⟩
    · cases detected

/-- A detected family has a surface among the tokens. -/
theorem detectedFamily_source {family : String}
    (detected : detectedFamily order text = some family) :
    ∃ entry ∈ familyTokens, entry.1 = family ∧
      ∃ surface ∈ entry.2, surface ∈ tokens (lower text) := by
  -- The entry that is found passed the test on its surfaces.
  obtain ⟨entry, found, named⟩ := Option.map_eq_some_iff.mp detected
  have listed := List.mem_of_find?_eq_some found
  have seen := List.find?_some found
  rw [Bool.and_eq_true, surface_seen_iff listed] at seen
  exact ⟨entry, listed, named, seen.1⟩

end Detection

section Recognition

variable {order : SetOrder} {text : String}

/-- A text that spells a brand is recognized with a brand. -/
theorem brand_of_spells (spelled : SpellsBrand text) :
    (extractQueryScope order text).isIdentified = true ∧
      (extractQueryScope order text).brand ≠ none := by
  -- A spelled brand is detected, whichever it is.
  have present : (extractQueryScope order text).brand ≠ none := by
    rw [extractQueryScope_eq, detectedScope_brand]
    exact detectedBrand_ne_none_iff.mpr spelled
  exact ⟨isIdentified_iff.mpr (Or.inr present), present⟩

/-- A text that spells a family is recognized with a family. -/
theorem family_of_spells (spelled : SpellsFamily text) :
    (extractQueryScope order text).isIdentified = true ∧
      (extractQueryScope order text).family ≠ none := by
  -- A spelled family is detected, whichever it is.
  have present : (extractQueryScope order text).family ≠ none := by
    rw [extractQueryScope_eq, detectedScope_family]
    exact detectedFamily_ne_none_iff.mpr spelled
  exact ⟨isIdentified_iff.mpr (Or.inl present), present⟩

/-- A text spelled for the matcher is recognized by its words. -/
theorem recognizesWords_of_spelled (spelled : SpelledForMatcher text) :
    RecognizesWords order text where
  brand_complete := by
    intro entry listed held
    refine brand_of_spells ?_
    -- A brand of one word is a token of its own.
    rcases brandEntries_words entry listed with ⟨single, known⟩ | several
    · exact Or.inr ⟨entry, token_of_hasWords single held, known⟩
    · exact spelled.brands entry listed several held
  family_complete := by
    intro entry listed surface inside noGuide held
    refine family_of_spells ?_
    rcases surfaces_words entry listed surface inside with single | several
    · refine ⟨entry, listed, ⟨surface, inside, token_of_hasWords single held⟩, ?_⟩
      intro guide
      exact absurd ((surfaces_guide entry listed surface inside).1.mp guide) noGuide
    · exact spelled.families entry listed surface inside several held
  brand_sound := by
    intro brand returned
    rw [extractQueryScope_eq, detectedScope_brand] at returned
    rcases detectedBrand_source returned with ⟨phrase, found, named⟩ | ⟨known, member⟩
    · exact Or.inr ⟨phrase, List.mem_of_find?_eq_some found, named, spelled.phrase phrase found⟩
    · exact Or.inl ⟨known, hasWords_of_token member⟩
  family_sound := by
    intro family returned
    rw [extractQueryScope_eq, detectedScope_family] at returned
    obtain ⟨entry, listed, named, surface, inside, member⟩ := detectedFamily_source returned
    exact ⟨entry, listed, named, surface, inside, hasWords_of_token member⟩

/-- The returned phrase has its words in a text that is recognized by its words. -/
theorem phrase_of_recognizes (recognized : RecognizesWords order text) {phrase : String × String}
    (found : (brandPhrases.find? fun phrase => OccursIn phrase.1 (lower text)) = some phrase) :
    HasWords text phrase.1 := by
  have listed := List.mem_of_find?_eq_some found
  have returned : (extractQueryScope order text).brand = some phrase.2 := by
    rw [extractQueryScope_eq, detectedScope_brand, detectedBrand, detectBrand, found]
  -- Whichever entry the brand comes from, it has the words of the phrase.
  rcases recognized.brand_sound phrase.2 returned with ⟨_, held⟩ | ⟨other, also, same, held⟩
  · rwa [HasWords, brandPhrases_words phrase listed] at held
  · rwa [HasWords, ← brandPhrases_words other also, same, brandPhrases_words phrase listed] at held

/-- A text is recognized by its words exactly when it is spelled for the matcher. -/
theorem recognizesWords_iff (order : SetOrder) (text : String) :
    RecognizesWords order text ↔ SpelledForMatcher text := by
  constructor
  · intro recognized
    refine ⟨?_, ?_, fun phrase found => phrase_of_recognizes recognized found⟩
    · intro entry listed _ held
      have present := (recognized.brand_complete entry listed held).2
      rw [extractQueryScope_eq, detectedScope_brand] at present
      exact detectedBrand_ne_none_iff.mp present
    · intro entry listed surface inside several held
      -- The word "guide" is a single one.
      have noGuide : surface ≠ "guide" := by
        rintro rfl
        exact absurd several (by decide +kernel)
      have present := (recognized.family_complete entry listed surface inside noGuide held).2
      rw [extractQueryScope_eq, detectedScope_family] at present
      exact detectedFamily_ne_none_iff.mp present
  · exact recognizesWords_of_spelled

/-- A hyphenated brand is never recognized by its words, since no token holds a hyphen. -/
theorem not_recognizesWords : ¬ ∀ order text, RecognizesWords order text := by
  -- The vocabulary has the brand with its hyphen, at which the text is split.
  intro always
  have recognized := always .textual "Industry-Nine hub end cap"
  exact (recognized.brand_complete "industry-nine" (by decide +kernel) (by decide +kernel)).2
    (by decide +kernel)

end Recognition

end TorqueFinder
