import Mathlib.Tactic.Tauto
import TorqueFinder.Eval.Figures
import TorqueFinder.Eval.Grading

/-! The notations of a number with its unit collapse into one. -/

namespace TorqueFinder

open PyText

section Words

variable {more : List Piece} {word : List Char}

/-- A letter of a pattern is that letter. -/
theorem denotes_letter_iff {char : Char} :
    Piece.Denotes (letter char :: more) word ↔
      ∃ rest, word = char :: rest ∧ Piece.Denotes more rest := by
  -- A literal character stands for itself.
  simp only [letter, Piece.Denotes, Regex.denotes_char_iff, beq_iff_eq]
  constructor
  · rintro ⟨front, rest, rfl, ⟨_, rfl, rfl⟩, later⟩
    exact ⟨rest, rfl, later⟩
  · rintro ⟨rest, rfl, later⟩
    exact ⟨[char], rest, rfl, ⟨char, rfl, rfl⟩, later⟩

/-- A gap of a pattern is white space. -/
theorem denotes_gap_iff :
    Piece.Denotes (gap :: more) word ↔
      ∃ blanks rest, word = blanks ++ rest ∧ (∀ char ∈ blanks, isSpace char = true) ∧
        Piece.Denotes more rest := by
  simp only [gap, Piece.Denotes, Regex.denotes_star_iff]

/-- Newton metres run from an `n` to the first `m`. -/
theorem denotes_newtonMetreRe (denotes : Piece.Denotes newtonMetreRe word) :
    ∃ stem, word = 'n' :: stem ++ ['m'] ∧
      ∀ char ∈ stem, isSpace char = true ∨ char = '·' ∨ char = '⋅' ∨ char = '-' := by
  -- The separator is there or not; the gaps around it are white space.
  obtain ⟨_, rfl, afterN⟩ := denotes_letter_iff.mp (denotes : Piece.Denotes (letter 'n' :: _) word)
  obtain ⟨front, _, rfl, frontBlank, _, _, rfl, separates, afterSeparator⟩ :=
    denotes_gap_iff.mp afterN
  obtain ⟨back, _, rfl, backBlank, afterGap⟩ := denotes_gap_iff.mp afterSeparator
  obtain ⟨_, rfl, rfl⟩ := denotes_letter_iff.mp afterGap
  rcases Regex.denotes_opt_iff.mp separates with rfl | ⟨separator, passes, rfl⟩
  · refine ⟨front ++ back, by simp, ?_⟩
    intro char member
    rcases List.mem_append.mp member with before | behind
    · exact .inl (frontBlank char before)
    · exact .inl (backBlank char behind)
  · refine ⟨front ++ separator :: back, by simp, ?_⟩
    intro char member
    rcases List.mem_append.mp member with before | between
    · exact .inl (frontBlank char before)
    · rcases List.mem_cons.mp between with rfl | behind
      · exact .inr (by simpa [or_assoc] using passes)
      · exact .inl (backBlank char behind)

/-- Inch pounds run from `in` to the first `lb`. -/
theorem denotes_inLbRe (denotes : Piece.Denotes inLbRe word) :
    ∃ stem, word = 'i' :: 'n' :: stem ++ ['l', 'b'] ∧
      ∀ char ∈ stem, isSpace char = true ∨ char = '.' ∨ char = '-' := by
  -- The two letters at each end are fixed, and what is between them is no letter.
  obtain ⟨_, rfl, afterI⟩ := denotes_letter_iff.mp (denotes : Piece.Denotes (letter 'i' :: _) word)
  obtain ⟨_, rfl, stem, _, rfl, between, afterStem⟩ := denotes_letter_iff.mp afterI
  obtain ⟨_, rfl, afterL⟩ := denotes_letter_iff.mp afterStem
  obtain ⟨_, rfl, rfl⟩ := denotes_letter_iff.mp afterL
  refine ⟨stem, by simp, ?_⟩
  intro char member
  have passes := Regex.denotes_star_iff.mp between char member
  simp only [Bool.or_eq_true, beq_iff_eq] at passes
  tauto

/-- Millimetres end in two `m`. -/
theorem denotes_millimetreRe (denotes : Piece.Denotes millimetreRe word) :
    ∃ stem, word = stem ++ ['m', 'm'] := by
  -- The pattern ends with the two letters, whatever stands before them.
  obtain ⟨digit, _, rfl, _, blanks, _, rfl, _, afterGap⟩ := denotes
  obtain ⟨_, rfl, afterM⟩ := denotes_letter_iff.mp afterGap
  obtain ⟨_, rfl, rfl⟩ := denotes_letter_iff.mp afterM
  exact ⟨digit ++ blanks, by simp⟩

/-- The characters the joint of a range starts with. -/
def isJoint (char : Char) : Bool := isDash char || char == 't' || char == 'a'

/-- A range has its joint somewhere in front of the digit it ends in. -/
theorem denotes_rangeRe (denotes : Piece.Denotes rangeRe word) :
    ∃ joint digit, [joint, digit].Sublist word ∧ isJoint joint = true ∧ isDecimal digit = true := by
  -- Whichever of the three joints is taken, its first character tells it apart.
  obtain ⟨low, _, rfl, _, afterLow⟩ := denotes
  obtain ⟨before, _, rfl, _, choice, chosen, joined, _, rfl, joins, afterJoint⟩ :=
    denotes_gap_iff.mp afterLow
  obtain ⟨behind, _, rfl, _, high, _, rfl, ends, rfl⟩ := denotes_gap_iff.mp afterJoint
  obtain ⟨digit, isDigit, rfl⟩ := Regex.denotes_char_iff.mp ends
  obtain ⟨joint, more, rfl, starts⟩ : ∃ joint more, joined = joint :: more ∧ isJoint joint := by
    simp only [List.mem_cons, List.not_mem_nil, or_false] at chosen
    rcases chosen with rfl | rfl | rfl
    · obtain ⟨dash, isDash, rfl⟩ := Regex.denotes_char_iff.mp joins
      exact ⟨dash, [], rfl, by simp [isJoint, isDash]⟩
    · obtain ⟨front, back, rfl, first, _⟩ := Regex.denotes_seq_iff.mp joins
      obtain ⟨_, is, rfl⟩ := Regex.denotes_char_iff.mp first
      exact ⟨_, back, rfl, by simp_all [isJoint]⟩
    · obtain ⟨front, back, rfl, first, _⟩ := Regex.denotes_seq_iff.mp joins
      obtain ⟨_, is, rfl⟩ := Regex.denotes_char_iff.mp first
      exact ⟨_, back, rfl, by simp_all [isJoint]⟩
  refine ⟨joint, digit, ?_, starts, isDigit⟩
  have inner : [joint, digit].Sublist (joint :: (more ++ (behind ++ [digit]))) :=
    List.Sublist.cons_cons joint (by simp)
  exact (inner.trans (List.sublist_append_right before _)).trans
    (List.sublist_append_right low _)

/-- A Torx size has a `t`. -/
theorem denotes_torxRe (denotes : Piece.Denotes torxRe word) : 't' ∈ word := by
  obtain ⟨rest, rfl, _⟩ := denotes_letter_iff.mp (denotes : Piece.Denotes (letter 't' :: _) word)
  exact List.mem_cons_self

/-- White space to collapse starts with white space. -/
theorem denotes_spaceRe (denotes : Piece.Denotes spaceRe word) :
    ∃ first more, word = first :: more ∧ isSpace first = true := by
  -- One or more blanks begin with a blank.
  obtain ⟨_, _, rfl, blank, rfl⟩ := denotes
  obtain ⟨_, more, rfl, starts, _⟩ := Regex.denotes_seq_iff.mp blank
  obtain ⟨first, isSpace, rfl⟩ := Regex.denotes_char_iff.mp starts
  exact ⟨first, more, by simp, isSpace⟩

end Words

/-- The units of torque the manuals print. -/
inductive TorqueUnit where
  | newtonMetre
  | inLb

/-- The one notation a unit is left in. -/
def TorqueUnit.text : TorqueUnit → List Char
  -- Both units are spelled as the substitutions of the normalization write them.
  | .newtonMetre => ['n', '-', 'm']
  | .inLb => ['i', 'n', '-', 'l', 'b']

/-- The notations of a unit that are collapsed. -/
def TorqueUnit.pattern : TorqueUnit → List Piece
  -- Each unit is recognized by its own pattern.
  | .newtonMetre => newtonMetreRe
  | .inLb => inLbRe

/-- An expected value: a number, white space and a unit in one of its notations. -/
def Expects (figure : Figure) (unit : TorqueUnit) (expected : String) : Prop :=
  -- The spelling of the unit may be any that its pattern matches in lower case.
  ∃ blanks spelling : List Char, expected.toList = figure.text ++ blanks ++ spelling ∧
    blanks ≠ [] ∧ (∀ char ∈ blanks, isSpace char = true) ∧
      Piece.Denotes unit.pattern (spelling.flatMap lowerChar)

section Front

variable {char : Char} {front : List Char}

/-- The characters in front of a unit: those of a number, and white space. -/
def isFrontChar (char : Char) : Bool := isFigureChar char || isSpace char

/-- What stands in front of a unit is a digit, a decimal point or white space. -/
theorem isFrontChar_iff :
    isFrontChar char = true ↔ isDecimal char = true ∨ char = '.' ∨ isSpace char = true := by
  simp [isFrontChar, isFigureChar, or_assoc]

/-- What stands in front of a unit keeps its case. -/
theorem lowerChar_of_isFrontChar (stands : isFrontChar char = true) : lowerChar char = [char] := by
  -- Digits, points and blanks have no case.
  rcases isFrontChar_iff.mp stands with digit | rfl | space
  · exact lowerChar_of_isDecimal digit
  · rfl
  · exact lowerChar_of_isSpace space

/-- What stands in front of a unit is no letter. -/
theorem isLetter_of_isFrontChar (stands : isFrontChar char = true) : isLetter char = false := by
  -- The code points of the small letters lie between all of these.
  have place : char.toNat < 97 ∨ 122 < char.toNat := by
    rcases isFrontChar_iff.mp stands with digit | rfl | space
    · have := toNat_of_isDecimal digit
      omega
    · exact .inl (by decide)
    · have := toNat_of_isSpace space
      omega
  rw [Bool.eq_false_iff]
  intro isLetter
  obtain ⟨low, high⟩ : 'a' ≤ char ∧ char ≤ 'z' := by simpa [TorqueFinder.isLetter] using isLetter
  have above : 97 ≤ char.toNat := low
  have below : char.toNat ≤ 122 := high
  omega

/-- A letter is none of what stands in front of a unit. -/
theorem not_mem_of_isLetter (stands : ∀ char ∈ front, isFrontChar char = true)
    (isLetter : isLetter char = true) : char ∉ front := by
  -- Digits, points and blanks are no letters.
  intro member
  rw [isLetter_of_isFrontChar (stands char member)] at isLetter
  cases isLetter

/-- The joint of a range is none of what stands in front of a unit. -/
theorem isJoint_of_isFrontChar (stands : isFrontChar char = true) : isJoint char = false := by
  -- There are five such characters, and none is a digit, a point or white space.
  rw [Bool.eq_false_iff]
  intro joins
  obtain rfl | rfl | rfl | rfl | rfl :
      char = '-' ∨ char = '–' ∨ char = '—' ∨ char = 't' ∨ char = 'a' := by
    simpa [isJoint, isDash, or_assoc] using joins
  all_goals revert stands; decide

end Front

/-- A unit has no characters of a number, and no white space either. -/
theorem TorqueUnit.solid_of_mem {unit : TorqueUnit} {char : Char}
    (member : char ∈ unit.text) : isFigureChar char = false ∧ isSpace char = false := by
  -- No character of the two spellings is a digit, a point or a blank.
  have none : unit.text.any isFrontChar = false := by cases unit <;> rfl
  have absent : isFrontChar char = false := by simpa using List.any_eq_false.mp none char member
  simpa [isFrontChar] using absent

section Passes

variable {front word : List Char} {unit : TorqueUnit}

/-- A unit starts with a letter. -/
private theorem head_of_pattern (denotes : Piece.Denotes unit.pattern word) :
    ∃ first ∈ word.head?, isLetter first = true := by
  -- Both patterns begin with a letter.
  cases unit with
  | newtonMetre =>
    obtain ⟨stem, rfl, _⟩ := denotes_newtonMetreRe denotes
    exact ⟨'n', rfl, rfl⟩
  | inLb =>
    obtain ⟨stem, rfl, _⟩ := denotes_inLbRe denotes
    exact ⟨'i', rfl, rfl⟩

/-- The letter a unit ends in. -/
def TorqueUnit.last : TorqueUnit → Char
  -- The last letter tells where a match of the pattern ends.
  | .newtonMetre => 'm'
  | .inLb => 'b'

/-- The letter a unit ends in stands nowhere else in it. -/
private theorem last_of_pattern (denotes : Piece.Denotes unit.pattern word) :
    ∃ stem, word = stem ++ [unit.last] ∧ unit.last ∉ stem := by
  -- What stands between the first letter and the last one is no letter.
  cases unit with
  | newtonMetre =>
    obtain ⟨stem, rfl, between⟩ := denotes_newtonMetreRe denotes
    refine ⟨'n' :: stem, rfl, ?_⟩
    intro member
    rcases List.mem_cons.mp member with same | inside
    · cases same
    · exact absurd (between 'm' inside) (by decide)
  | inLb =>
    obtain ⟨stem, rfl, between⟩ := denotes_inLbRe denotes
    refine ⟨'i' :: 'n' :: stem ++ ['l'], by simp [TorqueUnit.last], ?_⟩
    intro member
    have inside : 'b' ∈ stem := by simpa [TorqueUnit.last] using member
    exact absurd (between 'b' inside) (by decide)

/-- A unit behind anything but a letter is matched whole. -/
private theorem exists_way_of_pattern (denotes : Piece.Denotes unit.pattern word)
    {behind : Option Char} (clear : ∀ char ∈ behind, isLetter char = false) :
    ∃ groups, (groups, []) ∈ Piece.ways unit.pattern behind word := by
  -- The guards at both ends are the only ones.
  cases unit with
  | newtonMetre =>
    have parts : ∀ piece ∈ [letter 'n', gap,
        .part (.opt (.char fun char => char == '·' || char == '⋅' || char == '-')), gap,
        letter 'm'], piece.isGuard = false := by
      simp [letter, gap, Piece.isGuard]
    exact Piece.exists_way_of_denotes parts clear denotes
  | inLb =>
    have parts : ∀ piece ∈ [letter 'i', letter 'n',
        .part (.star (.char fun char => char == '.' || isSpace char || char == '-')), letter 'l',
        letter 'b'], piece.isGuard = false := by
      simp [letter, Piece.isGuard]
    exact Piece.exists_way_of_denotes parts clear denotes

/-- The pass for a unit rewrites it at the end of a text and leaves what stands in front of it. -/
private theorem sub_pattern (written : List Char) (stands : ∀ char ∈ front, isFrontChar char = true)
    (denotes : Piece.Denotes unit.pattern word) :
    Piece.sub unit.pattern (fun _ => written) (String.ofList (front ++ word)) =
      String.ofList (front ++ written) := by
  -- No unit starts in front, and behind it the unit is matched up to its only last letter.
  have quiet : ∀ char ∈ front, ∀ word, Piece.Denotes unit.pattern word →
      ∃ first ∈ word.head?, first ≠ char := by
    intro char member word denotes
    obtain ⟨first, head, isLetter⟩ := head_of_pattern denotes
    refine ⟨first, head, ?_⟩
    intro same
    exact not_mem_of_isLetter stands isLetter (same ▸ member)
  have clear : ∀ char ∈ front.getLast?.or none, isLetter char = false := by
    intro char last
    rw [Option.or_none] at last
    exact isLetter_of_isFrontChar (stands char (List.mem_of_getLast? last))
  obtain ⟨groups, matched⟩ := exists_way_of_pattern denotes clear
  rw [Piece.sub, String.toList_ofList, Piece.replaceFrom_append quiet,
    Piece.replaceFrom_of_word (fun _ => last_of_pattern) matched]

/-- A text without the last letter of a unit does not hold the unit. -/
private theorem sub_pattern_of_not_mem (unit : TorqueUnit) {written : List Char} {text : String}
    (absent : unit.last ∉ text.toList) :
    Piece.sub unit.pattern (fun _ => written) text = text := by
  -- A unit in the text would bring its last letter along.
  apply Piece.sub_of_no_infix
  intro word denotes inside
  obtain ⟨stem, rfl, _⟩ := last_of_pattern denotes
  exact absent (inside.subset (by simp))

/-- The two passes for units leave a unit in its one notation. -/
private theorem sub_units (stands : ∀ char ∈ front, isFrontChar char = true)
    (denotes : Piece.Denotes unit.pattern word) :
    Piece.sub inLbRe (fun _ => ['i', 'n', '-', 'l', 'b'])
        (Piece.sub newtonMetreRe (fun _ => ['n', '-', 'm']) (String.ofList (front ++ word))) =
      String.ofList (front ++ unit.text) := by
  -- The pass for the other unit misses its last letter.
  cases unit with
  | newtonMetre =>
    have noB : 'b' ∉ front := not_mem_of_isLetter stands rfl
    have rewritten := sub_pattern ['n', '-', 'm'] stands denotes
    have other : 'b' ∉ (String.ofList (front ++ ['n', '-', 'm'])).toList := by simpa using noB
    exact (congrArg _ rewritten).trans (sub_pattern_of_not_mem .inLb other)
  | inLb =>
    have noM : 'm' ∉ front ++ word := by
      obtain ⟨stem, rfl, between⟩ := denotes_inLbRe denotes
      have inFront : 'm' ∉ front := not_mem_of_isLetter stands rfl
      have inStem : 'm' ∉ stem := fun member => absurd (between 'm' member) (by decide)
      simp [inFront, inStem]
    have other : 'm' ∉ (String.ofList (front ++ word)).toList := by simpa using noM
    exact (congrArg _ (sub_pattern_of_not_mem .newtonMetre other)).trans
      (sub_pattern ['i', 'n', '-', 'l', 'b'] stands denotes)

/-- No two `m` stand in a text, and no joint of a range in front of a digit. -/
def Apart (ahead behind : Char) : Prop :=
  ¬ (ahead = 'm' ∧ behind = 'm') ∧ ¬ (isJoint ahead = true ∧ isDecimal behind = true)

/-- A number with its unit has neither millimetres nor a range. -/
private theorem pairwise_apart (stands : ∀ char ∈ front, isFrontChar char = true) :
    (front ++ unit.text).Pairwise Apart := by
  -- Nothing in front can be the first of such a pair, and a unit has no such pair.
  have apart : ∀ ahead ∈ front, ∀ behind, Apart ahead behind := by
    intro ahead member behind
    have notM : ahead ≠ 'm' := fun same =>
      not_mem_of_isLetter stands rfl (same ▸ member)
    simp [Apart, notM, isJoint_of_isFrontChar (stands ahead member)]
  rw [List.pairwise_append]
  refine ⟨List.pairwise_of_forall_mem_list fun ahead member behind _ => apart ahead member behind,
    ?_, fun ahead member behind _ => apart ahead member behind⟩
  cases unit <;> (unfold Apart; decide)

/-- The passes behind those for units leave a number with its unit alone. -/
private theorem sub_later_passes (stands : ∀ char ∈ front, isFrontChar char = true)
    {text : String} (shape : text.toList = front ++ unit.text)
    (millimetres ranges sizes : List (List Char) → List Char) :
    Piece.sub millimetreRe millimetres text = text ∧ Piece.sub rangeRe ranges text = text ∧
      Piece.sub torxRe sizes text = text := by
  -- Each pattern needs two characters in an order that does not occur, or a letter that does not.
  have apart : ∀ ahead behind, [ahead, behind].Sublist text.toList → Apart ahead behind := by
    intro ahead behind inside
    have pair := (shape ▸ pairwise_apart stands : text.toList.Pairwise Apart).sublist inside
    simpa using pair
  refine ⟨?_, ?_, ?_⟩ <;> apply Piece.sub_of_no_infix <;> intro word denotes inside
  · obtain ⟨stem, rfl⟩ := denotes_millimetreRe denotes
    have both := (List.sublist_append_right stem ['m', 'm']).trans inside.sublist
    exact (apart 'm' 'm' both).1 ⟨rfl, rfl⟩
  · obtain ⟨joint, digit, both, joins, isDigit⟩ := denotes_rangeRe denotes
    exact (apart joint digit (both.trans inside.sublist)).2 ⟨joins, isDigit⟩
  · have member : 't' ∈ front ++ unit.text := shape ▸ inside.subset (denotes_torxRe denotes)
    have absent : 't' ∉ front := not_mem_of_isLetter stands rfl
    have noSize : 't' ∉ unit.text := by cases unit <;> decide
    simp [absent, noSize] at member

/-- Collapsing takes all the white space there is. -/
private theorem head?_ways_spaceRe {behind : Option Char} {blanks rest : List Char}
    (nonempty : blanks ≠ []) (blank : ∀ char ∈ blanks, isSpace char = true)
    (stop : ∀ char ∈ rest.head?, isSpace char = false) :
    (Piece.ways spaceRe behind (blanks ++ rest)).head? = some ([], rest) := by
  -- The first character is taken by the one that must be there, the others by the repetition.
  obtain ⟨first, more, rfl⟩ := List.exists_cons_of_ne_nil nonempty
  have one : ((Regex.char isSpace).remainders (first :: (more ++ rest))).head? =
      some (more ++ rest) := by
    simp [Regex.remainders, blank first List.mem_cons_self]
  have others := Regex.head?_remainders_star
    (fun char member => blank char (List.mem_cons_of_mem first member)) stop
  have all := Regex.head?_remainders_seq one others
  have ways : Piece.ways spaceRe behind (first :: (more ++ rest)) =
      ((Regex.plus (.char isSpace)).remainders (first :: (more ++ rest))).map
        fun left => ([], left) := by
    simp [spaceRe, Piece.ways, Piece.step, List.flatMap_map, ← List.map_eq_flatMap]
  rw [List.cons_append, ways, List.head?_map, Regex.plus, all]
  rfl

/-- The gap between a number and its unit becomes one space. -/
private theorem sub_spaceRe (figure : Figure) {blanks : List Char} (nonempty : blanks ≠ [])
    (blank : ∀ char ∈ blanks, isSpace char = true) :
    Piece.sub spaceRe (fun _ => [' ']) (String.ofList (figure.text ++ blanks ++ unit.text)) =
      String.ofList (figure.text ++ ' ' :: unit.text) := by
  -- A figure and a unit hold no white space, so only the gap between them is collapsed.
  have quiet : ∀ char ∈ figure.text, ∀ word, Piece.Denotes spaceRe word →
      ∃ first ∈ word.head?, first ≠ char := by
    intro char member word denotes
    obtain ⟨first, more, rfl, space⟩ := denotes_spaceRe denotes
    refine ⟨first, rfl, ?_⟩
    rintro rfl
    rw [isSpace_of_isFigureChar (Figure.isFigureChar_of_mem member)] at space
    cases space
  have solid : ∀ char ∈ unit.text, isSpace char = false := fun char member =>
    (TorqueUnit.solid_of_mem member).2
  have stop : ∀ char ∈ unit.text.head?, isSpace char = false := fun char head =>
    solid char (List.mem_of_mem_head? head)
  have free : ∀ word, Piece.Denotes spaceRe word → ¬ word <:+: unit.text := by
    intro word denotes inside
    obtain ⟨first, more, rfl, space⟩ := denotes_spaceRe denotes
    rw [solid first (inside.subset List.mem_cons_self)] at space
    cases space
  rw [Piece.sub, String.toList_ofList, List.append_assoc, Piece.replaceFrom_append quiet,
    Piece.replaceFrom_of_head nonempty (head?_ways_spaceRe nonempty blank stop),
    Piece.replaceFrom_of_no_infix free]
  rfl

/-- An expected value is left with one space and the one notation of its unit. -/
theorem toList_normalize_of_expects {figure : Figure} {expected : String}
    (expects : Expects figure unit expected) :
    (normalize expected).toList = figure.text ++ ' ' :: unit.text := by
  -- Only the passes for the units and the one for white space change the text.
  obtain ⟨blanks, spelling, shape, nonempty, blank, denotes⟩ := expects
  have stands : ∀ char ∈ figure.text ++ blanks, isFrontChar char = true := by
    intro char member
    rcases List.mem_append.mp member with inFigure | inBlanks
    · simp [isFrontChar, Figure.isFigureChar_of_mem inFigure]
    · simp [isFrontChar, blank char inBlanks]
  -- Only the unit has letters, so only it is lowered.
  have lowered : lower expected =
      String.ofList (figure.text ++ blanks ++ spelling.flatMap lowerChar) := by
    have kept := flatMap_lowerChar fun char member => lowerChar_of_isFrontChar (stands char member)
    rw [lower, shape, List.flatMap_append, kept]
  have shape : (String.ofList (figure.text ++ blanks ++ unit.text)).toList =
      figure.text ++ blanks ++ unit.text := String.toList_ofList
  obtain ⟨millimetres, ranges, sizes⟩ := sub_later_passes stands shape
    (fun groups => groupText groups 0 ++ ['m', 'm'])
    (fun groups => groupText groups 0 ++ '-' :: groupText groups 1)
    (fun groups => 't' :: groupText groups 0)
  -- Both ends of the text are solid, so there is nothing to strip.
  have stripped : strip (String.ofList (figure.text ++ ' ' :: unit.text)) =
      String.ofList (figure.text ++ ' ' :: unit.text) := by
    obtain ⟨digit, rest, starts, isDigit⟩ := figure.exists_digit
    rw [strip_eq_self_iff, String.toList_ofList]
    constructor
    · intro char head
      obtain rfl : digit = char := by simpa [starts] using head
      exact isSpace_of_isDecimal isDigit
    · intro char last
      cases unit <;> simp [TorqueUnit.text, List.getLast?_cons] at last <;> subst last <;> decide
  rw [normalize, lowered, sub_units stands denotes, millimetres, ranges, sizes,
    sub_spaceRe figure nonempty blank, stripped, String.toList_ofList]

end Passes

end TorqueFinder
