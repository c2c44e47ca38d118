import TorqueFinder.Lib.PyText
import TorqueFinder.Lib.Substitution

/-! Grading an answer: one notation for numbers with a unit, and containment under it. -/

namespace TorqueFinder

open PyText

/-- The characters matched by `[a-z]`. -/
def isLetter (char : Char) : Bool := 'a' ≤ char && char ≤ 'z'

/-- One character of a text. -/
def letter (char : Char) : Piece := .part (.char (· == char))

/-- White space that may be missing: `\s*`. -/
def gap : Piece := .part (.star (.char isSpace))

/-- What a numbered group of a match kept. -/
def groupText (groups : List (List Char)) (number : Nat) : List Char := groups.getD number []

/-- Newton metres in any notation: `(?<![a-z])n\s*[·⋅-]?\s*m(?![a-z])`. -/
def newtonMetreRe : List Piece :=
  -- A middle dot, a dot operator or a hyphen may stand between the letters.
  [.notBehind isLetter, letter 'n', gap,
    .part (.opt (.char fun char => char == '·' || char == '⋅' || char == '-')), gap, letter 'm',
    .notAhead isLetter]

/-- Inch pounds in any notation: `(?<![a-z])in[.\s-]*lb(?![a-z])`. -/
def inLbRe : List Piece :=
  -- The pattern allows in-lb, in. lb and in lb.
  [.notBehind isLetter, letter 'i', letter 'n',
    .part (.star (.char fun char => char == '.' || isSpace char || char == '-')), letter 'l',
    letter 'b', .notAhead isLetter]

/-- Millimetres set apart from their number: `(\d)\s+mm(?![a-z])`. -/
def millimetreRe : List Piece :=
  -- Only the blank between the digit and the unit is dropped.
  [.group (.char isDecimal), .part (.plus (.char isSpace)), letter 'm', letter 'm',
    .notAhead isLetter]

/-- A hyphen, an en dash or an em dash. -/
def isDash (char : Char) : Bool := char == '-' || char == '–' || char == '—'

/-- A range of numbers: `(\d(?:\.\d+)?)\s*(?:[-–—]|to|and)\s*(\d)`. -/
def rangeRe : List Piece :=
  -- A dash, to or and between two figures makes a range.
  [.group (.seq (.char isDecimal) (.opt (.seq (.char (· == '.')) (.plus (.char isDecimal))))), gap,
    .oneOf [.char isDash, .seq (.char (· == 't')) (.char (· == 'o')),
      .seq (.char (· == 'a')) (.seq (.char (· == 'n')) (.char (· == 'd')))],
    gap, .group (.char isDecimal)]

/-- A Torx size with a hyphen: `(?<![a-z])t\s*-\s*(\d)`. -/
def torxRe : List Piece :=
  [.notBehind isLetter, letter 't', gap, letter '-', gap, .group (.char isDecimal)]

/-- White space: `\s+`. -/
def spaceRe : List Piece := [.part (.plus (.char isSpace))]

/-- Collapse the notations of a number with its unit into one. -/
def normalize (value : String) : String :=
  let normalized := lower value
  -- The substitutions run in this order, each on the result of the one before.
  let normalized := Piece.sub newtonMetreRe (fun _ => ['n', '-', 'm']) normalized
  let normalized := Piece.sub inLbRe (fun _ => ['i', 'n', '-', 'l', 'b']) normalized
  let normalized :=
    Piece.sub millimetreRe (fun groups => groupText groups 0 ++ ['m', 'm']) normalized
  let normalized :=
    Piece.sub rangeRe (fun groups => groupText groups 0 ++ '-' :: groupText groups 1) normalized
  let normalized := Piece.sub torxRe (fun groups => 't' :: groupText groups 0) normalized
  strip (Piece.sub spaceRe (fun _ => [' ']) normalized)

/-- Whether the expected text stands in the actual one, notation aside. -/
def matchesText (actual expected : Option String) : Bool :=
  match expected with
  -- A case that expects nothing is always met.
  | none => true
  | some expected =>
    match actual with
    | none => false
    -- The expected text may stand anywhere in the answer, behind a digit as well.
    | some actual => decide (OccursIn (normalize expected) (normalize actual))

/-- Whether an answer carries the expected value. -/
def valueMatches (actual expected : Option String) : Bool := matchesText actual expected

/-- Whether the cited source documents the value. -/
def provenanceOk (chunkText : Option String) (expectedValue : String)
    (isVerifiedFigurePage : Bool) : Bool :=
  -- The text of a figure page is incomplete, so a verified page stands for it.
  if isVerifiedFigurePage then true
  else
    match chunkText with
    | none => false
    | some chunkText => decide (OccursIn (normalize expectedValue) (normalize chunkText))

/-- What grading reads of a case mined from the corpus. -/
structure SampledCase where
  caseId : String
  documentTitle : String
  expectedTorque : String

/-- What grading reads of an answer. -/
structure GradedAnswer where
  text : String
  torque : Option String

/-- What grading reads of the source an answer cites. -/
structure ChosenSource where
  text : String
  documentTitle : String

/-- The modes a sampled case is graded with. -/
inductive FailureMode where
  | correct
  | abstained
  | wrongValue
  | other
  deriving DecidableEq

/-- The words the histogram counts the modes under. -/
def FailureMode.word : FailureMode → String
  -- These are the spellings that the report counts.
  | .correct => "correct"
  | .abstained => "abstained"
  | .wrongValue => "wrong_value"
  | .other => "other"

/-- The modes a graded case may name. -/
def failModes : List String :=
  ["correct", "hallucinated_out_of_corpus", "confirmed_wrong_premise", "paraphrase_recall_miss",
    "wrong_value", "nondeterministic_value", "inconsistent_unit_conversion", "figure_wrong_value",
    "figure_abstain_should_answer", "range_truncated", "missing_procedure_caveat", "http_502",
    "http_error", "abstained", "error", "other", "skip"]

/-- No mode a sampled case is graded with is refused by the record. -/
theorem FailureMode.word_mem_failModes (mode : FailureMode) : mode.word ∈ failModes := by
  cases mode <;> decide

/-- A graded case. -/
structure GradedRecord where
  caseId : String
  passed : Bool
  failureMode : FailureMode
  retrievedExpected : Bool
  docPagePrecise : Bool
  deriving DecidableEq

/-- The text an answer is graded by: its prose and its torque, where they are not empty. -/
def gradedText (answer : GradedAnswer) : String :=
  " | ".intercalate (([some answer.text, answer.torque].filterMap id).filter (· ≠ ""))

/-- Grade one sampled case. -/
def gradeSampled (case : SampledCase) (answer : GradedAnswer) (chosen : Option ChosenSource) :
    GradedRecord :=
  let valueOk := valueMatches (some (gradedText answer)) (some case.expectedTorque)
  let docOk := chosen.any fun source => source.documentTitle == case.documentTitle
  let passed := valueOk && docOk
  { caseId := case.caseId
    passed := passed
    failureMode :=
      -- The first reason that applies is recorded.
      if passed then .correct
      else if chosen.isNone then .abstained
      else if !valueOk then .wrongValue
      else .other
    retrievedExpected := docOk
    docPagePrecise :=
      passed && provenanceOk (chosen.map ChosenSource.text) case.expectedTorque false }

end TorqueFinder
