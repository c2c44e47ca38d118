import TorqueFinder.Eval.Normalization

/-! What the value grader accepts: the expected number alone, or as the tail of a longer one. -/

namespace TorqueFinder

open PyText

/-- A text states a number with a unit: a figure of that value, not cut off a longer one. -/
def States (figure : Figure) (unit : TorqueUnit) (text : String) : Prop :=
  -- No digit or point stands in front of the figure, so it is the whole number.
  ∃ (stated : Figure) (front blanks back : List Char),
    text.toList = front ++ (stated.text ++ (blanks ++ (unit.text ++ back))) ∧
      stated.value = figure.value ∧ (∀ char ∈ blanks, isSpace char = true) ∧
      ∀ char ∈ front.getLast?, isFigureChar char = false

/-- A text holds another directly behind a digit or a decimal point. -/
def StandsBehindFigure (needle text : String) : Prop :=
  -- The text stands behind a digit or a point, so it is the tail of a longer figure.
  ∃ (front back : List Char) (char : Char),
    text.toList = front ++ char :: (needle.toList ++ back) ∧ isFigureChar char = true

/-- What stands behind a digit or a decimal point of a text stands in it. -/
theorem StandsBehindFigure.occursIn {needle text : String}
    (behind : StandsBehindFigure needle text) : OccursIn needle text := by
  -- The character in front belongs to what stands before the needle.
  obtain ⟨front, back, char, split, _⟩ := behind
  exact ⟨front ++ [char], back, by simp [split]⟩

section Stated

variable {figure stated : Figure} {unit : TorqueUnit} {text : String}

/-- Neither a unit nor the gap in front of it has characters of a number. -/
private theorem not_isFigureChar_of_mem {blanks : List Char} {char : Char}
    (blank : ∀ char ∈ blanks, isSpace char = true) (member : char ∈ blanks ++ unit.text) :
    isFigureChar char = false := by
  -- White space is no character of a number, and a unit has none either.
  rcases List.mem_append.mp member with inBlanks | inUnit
  · rw [Bool.eq_false_iff]
    intro inside
    have space := blank char inBlanks
    rw [isSpace_of_isFigureChar inside] at space
    cases space
  · exact (TorqueUnit.solid_of_mem inUnit).1

/-- A text that is one figure with its unit states the value of that figure and no other. -/
theorem states_iff_value_eq (shape : text.toList = stated.text ++ ' ' :: unit.text) :
    States figure unit text ↔ stated.value = figure.value := by
  have space : ∀ char ∈ [' '], isSpace char = true := List.forall_mem_singleton.mpr rfl
  constructor
  · intro states
    obtain ⟨other, front, blanks, back, split, value, blank, alone⟩ := states
    rw [shape] at split
    rcases List.append_eq_append_iff.mp split with ⟨more, _, behind⟩ | ⟨more, cut, behind⟩
    · -- Behind the figure there is no digit that another figure could start with.
      obtain ⟨digit, rest, starts, isDigit⟩ := other.exists_digit
      have member : digit ∈ [' '] ++ unit.text := by simp [behind, starts]
      have noFigure := not_isFigureChar_of_mem space member
      simp [isFigureChar, isDigit] at noFigure
    · -- A figure that starts later would be cut off this one.
      have first : front = [] := by
        rcases List.eq_nil_or_concat' front with none | ⟨init, last, rfl⟩
        · exact none
        · have member : last ∈ stated.text := by simp [cut]
          have inside := Figure.isFigureChar_of_mem member
          rw [alone last (by simp)] at inside
          cases inside
      rw [first, List.nil_append] at cut
      -- The stated figure ends at the blank or at the unit.
      have stops : ∀ char ∈ (blanks ++ (unit.text ++ back)).head?, isFigureChar char = false := by
        intro char head
        have nonempty : blanks ++ unit.text ≠ [] := by cases unit <;> simp [TorqueUnit.text]
        rw [← List.append_assoc, List.head?_append_of_ne_nil _ nonempty] at head
        exact not_isFigureChar_of_mem blank (List.mem_of_mem_head? head)
      -- Both figures are the same run of characters.
      have same : other.text = stated.text := by
        have read := congrArg (List.takeWhile isFigureChar) behind
        rwa [other.takeWhile_text stops, ← cut, stated.takeWhile_text (by simp; decide)] at read
      rw [← Figure.value_congr same, value]
  · intro value
    exact ⟨stated, [], [' '], [], by simp [shape], value, space, by simp⟩

end Stated

section Graded

variable {figure : Figure} {unit : TorqueUnit} {expected : String}

/-- A value found behind neither a digit nor a decimal point is stated. -/
theorem states_or_standsBehindFigure (expects : Expects figure unit expected) {text : String}
    (occurs : OccursIn (normalize expected) text) :
    States figure unit text ∨ StandsBehindFigure (normalize expected) text := by
  -- What stands in front of the value found decides which of the two it is.
  obtain ⟨front, back, split⟩ := occurs
  have space : ∀ char ∈ [' '], isSpace char = true := List.forall_mem_singleton.mpr rfl
  have whole : text.toList = front ++ (figure.text ++ ([' '] ++ (unit.text ++ back))) := by
    rw [← split, toList_normalize_of_expects expects]
    simp
  by_cases cut : ∃ char ∈ front.getLast?, isFigureChar char = true
  · obtain ⟨char, last, inside⟩ := cut
    obtain ⟨init, rfl⟩ := List.getLast?_eq_some_iff.mp last
    exact .inr ⟨init, back, char, by simp [← split], inside⟩
  · have alone : ∀ char ∈ front.getLast?, isFigureChar char = false := by simpa using cut
    exact .inl ⟨figure, front, [' '], back, whole, rfl, space, alone⟩

/-- The grader accepts what holds the value it expects, notation aside. -/
theorem valueMatches_some_iff (actual expected : String) :
    valueMatches (some actual) (some expected) = true ↔
      OccursIn (normalize expected) (normalize actual) := by
  simp [valueMatches, matchesText]

/--
An accepted answer states the expected number with its unit, unless the number was only found
cut off a longer one.

The grader looks for the value without regard to the character in front of it, so it takes the
tail of a longer number for the number itself.
-/
theorem valueMatches_states_iff (expects : Expects figure unit expected) (actual : String) :
    (valueMatches (some actual) (some expected) = true → States figure unit (normalize actual)) ↔
      (StandsBehindFigure (normalize expected) (normalize actual) →
        States figure unit (normalize actual)) := by
  -- Only a value that is found can be accepted, and what is found is stated or a tail.
  rw [valueMatches_some_iff]
  constructor
  · intro sound behind
    exact sound behind.occursIn
  · intro sound occurs
    rcases states_or_standsBehindFigure expects occurs with states | behind
    · exact states
    · exact sound behind

/-- The number six. -/
def six : Figure where
  -- The value that the question expects.
  whole := ['6']
  fraction := none
  whole_digits := List.forall_mem_singleton.mpr rfl
  fraction_digits := by simp
  whole_ne_nil := List.cons_ne_nil _ _
  fraction_ne_nil := by simp

/-- Six newton metres, as the guard against wrong values expects them. -/
private theorem expects_six : Expects six .newtonMetre "6 N-m" := by
  -- The unit is read letter by letter along its pattern.
  have space : ∀ char ∈ [' '], isSpace char = true := List.forall_mem_singleton.mpr rfl
  refine ⟨[' '], ['N', '-', 'm'], rfl, List.cons_ne_nil _ _, space, ?_⟩
  refine denotes_letter_iff.mpr ⟨['-', 'm'], rfl, ?_⟩
  refine denotes_gap_iff.mpr ⟨[], ['-', 'm'], rfl, by simp, ?_⟩
  refine ⟨['-'], ['m'], rfl, Regex.denotes_opt_iff.mpr (.inr ⟨'-', rfl, rfl⟩), ?_⟩
  refine denotes_gap_iff.mpr ⟨[], ['m'], rfl, by simp, ?_⟩
  exact denotes_letter_iff.mpr ⟨[], rfl, rfl⟩

/-- In an answer of sixteen newton metres the six is looked for behind the one. -/
theorem valueMatches_states_iff_sixteen :
    (valueMatches (some "16 N-m") (some "6 N-m") = true →
        States six .newtonMetre (normalize "16 N-m")) ↔
      (StandsBehindFigure (normalize "6 N-m") (normalize "16 N-m") →
        States six .newtonMetre (normalize "16 N-m")) :=
  valueMatches_states_iff expects_six "16 N-m"

/-- Every expected value has a wrong answer that is accepted: itself behind another digit. -/
theorem accepts_behindDigit (expects : Expects figure unit expected) :
    valueMatches (some ("1" ++ expected)) (some expected) = true ∧
      ¬ States figure unit (normalize ("1" ++ expected)) := by
  -- The longer number is normalized like the expected one, which is its tail.
  have one : isDecimal '1' = true := rfl
  have longer : Expects (figure.behindDigit '1' one) unit ("1" ++ expected) := by
    obtain ⟨blanks, spelling, shape, rest⟩ := expects
    exact ⟨blanks, spelling, by simp [shape, Figure.text, Figure.behindDigit], rest⟩
  have written := toList_normalize_of_expects longer
  constructor
  · rw [valueMatches_some_iff, OccursIn, written, toList_normalize_of_expects expects]
    exact ⟨['1'], [], by simp [Figure.text, Figure.behindDigit]⟩
  · rw [states_iff_value_eq written]
    have worth : decimalValue '1' = some (0 + 1) := by decide
    exact (figure.value_lt_behindDigit one worth).ne'

/-- Sixteen newton metres are accepted where six are expected. -/
theorem accepts_sixteen_for_six :
    ¬ ∀ (figure : Figure) (unit : TorqueUnit) (actual expected : String),
      Expects figure unit expected → valueMatches (some actual) (some expected) = true →
        States figure unit (normalize actual) := by
  -- A digit in front of the expected text leaves the answer accepted.
  intro sound
  obtain ⟨accepted, wrong⟩ := accepts_behindDigit expects_six
  have sixteen : "1" ++ "6 N-m" = "16 N-m" := by decide
  rw [sixteen] at accepted wrong
  exact wrong (sound six .newtonMetre "16 N-m" "6 N-m" expects_six accepted)

end Graded

section Sampled

variable {case : SampledCase} {answer : GradedAnswer} {chosen : Option ChosenSource}

/-- A case is graded correct when it passes, and precise only when it passes. -/
theorem gradeSampled_failureMode :
    ((gradeSampled case answer chosen).failureMode = .correct ↔
        (gradeSampled case answer chosen).passed = true) ∧
      ((gradeSampled case answer chosen).docPagePrecise = true →
        (gradeSampled case answer chosen).passed = true) := by
  -- The mode is chosen by whether the case passes before anything else is asked.
  constructor
  · simp only [gradeSampled]
    split
    · simp_all
    · split <;> (try split) <;> simp_all
  · intro precise
    simp only [gradeSampled, Bool.and_eq_true] at precise ⊢
    exact precise.1

/-- A case that passes cites its manual, and states its number unless that was cut off. -/
theorem gradeSampled_sound {figure : Figure} {unit : TorqueUnit}
    (expects : Expects figure unit case.expectedTorque)
    (passed : (gradeSampled case answer chosen).passed = true) :
    (∃ source ∈ chosen, source.documentTitle = case.documentTitle) ∧
      (States figure unit (normalize (gradedText answer)) ∨
        StandsBehindFigure (normalize case.expectedTorque) (normalize (gradedText answer))) := by
  -- A passed case has met both checks, each of which gives one half.
  simp only [gradeSampled, Bool.and_eq_true] at passed
  obtain ⟨valueOk, docOk⟩ := passed
  constructor
  · simpa [Option.any_eq_true] using docOk
  · exact states_or_standsBehindFigure expects ((valueMatches_some_iff _ _).mp valueOk)

/-- A precise case cites a page that states its number, unless that was cut off there. -/
theorem gradeSampled_precise_sound {figure : Figure} {unit : TorqueUnit}
    (expects : Expects figure unit case.expectedTorque)
    (precise : (gradeSampled case answer chosen).docPagePrecise = true) :
    ∃ source ∈ chosen, States figure unit (normalize source.text) ∨
      StandsBehindFigure (normalize case.expectedTorque) (normalize source.text) := by
  -- A precise case passed, and its page holds the value it expects.
  simp only [gradeSampled, Bool.and_eq_true] at precise
  obtain ⟨_, documented⟩ := precise
  cases chosen with
  | none => simp [provenanceOk] at documented
  | some source =>
    have occurs : OccursIn (normalize case.expectedTorque) (normalize source.text) := by
      simpa [provenanceOk] using documented
    exact ⟨source, rfl, states_or_standsBehindFigure expects occurs⟩

end Sampled

end TorqueFinder
