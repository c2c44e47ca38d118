import Mathlib.Data.List.Dedup
import TorqueFinder.Domain.Models
import TorqueFinder.Lib.PyText

/-! The deterministic product and brand matcher shared by retrieval and extraction. -/

namespace TorqueFinder

open PyText

/-- Brands the corpus contains. -/
def inCorpusBrands : List String := ["rockshox", "sram", "avid", "zipp", "quarq"]

/-- Known component brands the corpus does not carry. -/
def outOfCorpusBrands : List String :=
  -- These brands are recognized but have no manual.
  ["shimano", "fox", "campagnolo", "magura", "hope", "crankbrothers", "trp", "box", "hayes",
    "tektro", "formula", "praxis", "easton", "enve", "industry-nine", "onyx", "wolftooth",
    "wolf-tooth"]

/-- Multi-word brands and the single token each stands for. -/
def brandPhrases : List (String × String) :=
  -- Brands of two words are found in the text and not among its tokens.
  [("dt swiss", "dt-swiss"), ("race face", "race-face"), ("chris king", "chris-king"),
    ("cane creek", "cane-creek"), ("wolf tooth", "wolf-tooth")]

/-- Product families and the surface tokens that identify each. -/
def familyTokens : List (String × List String) :=
  -- The families stand in the order of the source, which decides between two of them.
  [("pike", ["pike"]), ("lyrik", ["lyrik"]), ("zeb", ["zeb"]), ("yari", ["yari"]),
    ("sid", ["sid"]), ("sidluxe", ["sidluxe"]), ("revelation", ["revelation"]),
    ("reba", ["reba"]), ("recon", ["recon"]), ("sektor", ["sektor"]), ("domain", ["domain"]),
    ("boxxer", ["boxxer"]), ("judy", ["judy"]), ("tora", ["tora"]), ("argyle", ["argyle"]),
    ("dart", ["dart"]), ("bluto", ["bluto"]), ("vivid", ["vivid"]), ("monarch", ["monarch"]),
    ("deluxe", ["deluxe"]), ("kage", ["kage"]), ("reverb", ["reverb"]), ("code", ["code"]),
    ("guide", ["guide"]), ("level", ["level"]), ("bb7", ["bb7"]), ("db", ["db5", "db8"]),
    ("reaktiv", ["reaktiv"]), ("eagle", ["eagle"]), ("axs", ["axs"]), ("rs1", ["rs-1", "rs1"]),
    ("predictive-steering", ["predictive"])]

/-- Title tokens that never name a product family. -/
def genericTitleTokens : List String :=
  -- Words of many titles, which therefore tell nothing.
  ["technical", "front", "suspension", "spare", "part", "catalog", "road", "frame", "fit",
    "specifications", "safety", "instructions", "user", "udh", "hose", "bleed", "procedure",
    "adjustment"]

/-- Variants that make a preceding "guide" the brake family. -/
def guideProductVariants : List String := ["rs", "rsc", "re", "r", "t", "ultimate"]

/-- Words that make a following "guide" the genre of the document. -/
def guideGenreContext : List String :=
  ["tuning", "theory", "service", "identification", "start", "quick"]

/-- Lowercase and split on everything outside the alphanumerics, in text order. -/
def tokens (text : String) : List String := findRuns isWordChar (lower text)

/--
The order in which one process iterates over its sets of strings.

A set is built from a list of strings, and Python fixes neither the order nor a rule for it.
Every order that visits each member once is allowed.
-/
structure SetOrder where
  /-- The members of the set built from the list, in iteration order. -/
  enumerate : List String → List String
  nodup : ∀ items, (enumerate items).Nodup
  mem_enumerate : ∀ items item, item ∈ enumerate items ↔ item ∈ items

/-- The order of last appearance in the text. -/
def SetOrder.textual : SetOrder where
  -- The tokens in the order of their last places in the text.
  enumerate := List.dedup
  nodup := List.nodup_dedup
  mem_enumerate _ _ := List.mem_dedup

/-- The loop of `guideIsProduct`, which remembers the token before the current one. -/
def guideIsProductAfter : Option String → List String → Bool
  | _, [] => false
  | prevTok, tok :: rest =>
    let nextTok := rest.head?
    -- Only the word itself is judged, by its neighbours.
    if tok ≠ "guide" then guideIsProductAfter (some tok) rest
    -- A brake or one of its variants right behind names the product.
    else if nextTok = some "brake" then true
    else if nextTok.any guideProductVariants.contains then true
    -- Behind a word for a kind of document, and at the end of the text, it is the genre.
    else if prevTok.any guideGenreContext.contains then guideIsProductAfter (some tok) rest
    else if nextTok = none then guideIsProductAfter (some tok) rest
    -- A leading "guide" reaches the end of the loop body, which goes on without returning.
    else guideIsProductAfter (some tok) rest

/-- Whether some "guide" among the tokens is read as the Guide brake. -/
def guideIsProduct (tokens : List String) : Bool := guideIsProductAfter none tokens

/-- A token that is a known brand, inside or outside the corpus. -/
def isBrandToken (token : String) : Bool :=
  inCorpusBrands.contains token || outOfCorpusBrands.contains token

/-- The brand of a text and whether it was recognized, given its tokens in iteration order. -/
def detectBrand (lowered : String) (tokens : List String) : Option String × Bool :=
  match brandPhrases.find? fun phrase => OccursIn phrase.1 lowered with
  | some (_, normalized) => (some normalized, true)
  | none =>
    -- The first brand the iteration meets is returned.
    match tokens.find? isBrandToken with
    | some token => (some token, true)
    | none => (none, false)

/-- The first family one of whose tokens appears, skipping the genre reading of "guide". -/
def detectFamily (tokens ordered : List String) : Option String :=
  -- The table order decides between several families, not the order of the tokens.
  (familyTokens.find? fun entry =>
    entry.2.any tokens.contains && !(entry.1 == "guide" && !guideIsProduct ordered)).map Prod.fst

/-- Confidence of a scope that names a family. -/
def familyConfidence : Confidence := ⟨0.9, by norm_num⟩

/-- Confidence of a title that names a brand only. -/
def titleBrandConfidence : Confidence := ⟨0.6, by norm_num⟩

/-- Confidence of a query that names a brand only. -/
def queryBrandConfidence : Confidence := ⟨0.7, by norm_num⟩

/-- Derive a product scope from a document title. -/
def normalizeProduct (order : SetOrder) (text : String) : ProductScope :=
  if text = "" then {}
  else
    let lowered := lower text
    let tokenList := tokens lowered
    let tokenSet := order.enumerate tokenList
    let (brand, _) := detectBrand lowered tokenSet
    -- Generic tokens never count as a family.
    let family := detectFamily (tokenSet.filter fun token => !genericTitleTokens.contains token)
      tokenList
    if family = none ∧ brand = none then {}
    else
      { family, brand
        confidence := if family ≠ none then familyConfidence else titleBrandConfidence }

/-- The confidence a derived family must reach to be stored. -/
def familyPersistConfidence : ℚ := 0.9

/-- The family and brand to store for a document title. -/
def deriveFacet (order : SetOrder) (title : String) : Option String × Option String :=
  let scope := normalizeProduct order title
  -- The brand is stored whatever the confidence.
  (if familyPersistConfidence ≤ scope.confidence.val then scope.family else none, scope.brand)

/-- Derive the product a mechanic asked about from a question. -/
def extractQueryScope (order : SetOrder) (query : String) : ProductScope :=
  if query = "" then {}
  else
    let lowered := lower query
    let tokenList := tokens lowered
    let tokenSet := order.enumerate tokenList
    -- The brand is looked for among all tokens.
    let (brand, recognizedBrand) := detectBrand lowered tokenSet
    -- The family is only looked for among the telling ones.
    let family := detectFamily (tokenSet.filter fun token => !genericTitleTokens.contains token)
      tokenList
    if family = none ∧ recognizedBrand = false then {}
    else
      { family, brand
        confidence := if family ≠ none then familyConfidence else queryBrandConfidence }

/-- Whether the candidate's product identity satisfies the asked product. -/
def scopeMatches (asked candidate : ProductScope) : Bool :=
  -- A question that names no product matches nothing.
  if !asked.isIdentified then false
  else
    match asked.family, candidate.family with
    -- When both name a family, they must agree.
    | some askedFamily, some candidateFamily => askedFamily == candidateFamily
    | _, none =>
      -- A title without a family matches unless it carries a different brand.
      match candidate.brand with
      | none => true
      | some candidateBrand =>
        match asked.brand with
        | some askedBrand => askedBrand == candidateBrand
        | none => true
    | none, some _ =>
      -- The question names a brand only, and the title names a family.
      match candidate.brand, asked.brand with
      | some candidateBrand, some askedBrand => askedBrand == candidateBrand
      | _, _ => false

end TorqueFinder
