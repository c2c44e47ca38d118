import Mathlib.Data.List.DropRight
import TorqueFinder.Lib.PyText

/-! What stripped texts and texts joined by a separator look like. -/

namespace PyText

variable {text first : String} {rest texts : List String} {separator : String}

/-- The text in front of the first line feed. -/
def firstLine (text : String) : String := String.ofList (text.toList.takeWhile (· ≠ '\n'))

/-- The maximal runs are the pieces between the characters that are not kept. -/
theorem findRuns_eq_splitOnP (keep : Char → Bool) (text : String) :
    findRuns keep text =
      ((text.toList.splitOnP fun char => !keep char).filter fun piece => !piece.isEmpty).map
        String.ofList := by
  -- The front run is the first piece, and the other runs are the pieces after it.
  have pieces : ∀ chars : List Char, ∃ more,
      chars.splitOnP (fun char => !keep char) = (splitRuns keep chars).1 :: more ∧
        (splitRuns keep chars).2 = more.filter fun piece => !piece.isEmpty := by
    intro chars
    induction chars with
    | nil => exact ⟨[], by simp [splitRuns]⟩
    | cons char rest ih =>
      obtain ⟨more, split, runs⟩ := ih
      rw [List.splitOnP_cons_eq_if_modifyHead, split]
      by_cases kept : keep char
      · exact ⟨more, by simp [splitRuns, kept, runs]⟩
      · refine ⟨(splitRuns keep rest).1 :: more, by simp [splitRuns, kept], ?_⟩
        cases front : (splitRuns keep rest).1 <;> simp [splitRuns, kept, addRun, runs, front]
  obtain ⟨more, split, runs⟩ := pieces text.toList
  rw [findRuns, split]
  dsimp only
  rw [runs]
  cases front : (splitRuns keep text.toList).1 <;> simp [addRun]

/-- A piece between separators holds no separator. -/
private theorem of_mem_splitOnP {α : Type*} {separates : α → Bool} {list piece : List α}
    (member : piece ∈ list.splitOnP separates) : ∀ element ∈ piece, separates element = false := by
  induction list generalizing piece with
  | nil => simp_all
  | cons head tail ih =>
    rw [List.splitOnP_cons_eq_if_modifyHead] at member
    split at member
    · rcases List.mem_cons.mp member with rfl | later
      · simp
      · exact ih later
    · rename_i kept
      -- Only the first piece of the tail takes in the head.
      cases split : tail.splitOnP separates with
      | nil => simp [split] at member
      | cons front more =>
        rw [split, List.modifyHead_cons] at member
        rcases List.mem_cons.mp member with rfl | later
        · intro element inside
          rcases List.mem_cons.mp inside with rfl | behind
          · simpa using kept
          · exact ih (by simp [split]) element behind
        · exact ih (by simp [split, later])

/-- A run is its own only run. -/
theorem findRuns_of_mem {keep : Char → Bool} {run : String} (member : run ∈ findRuns keep text) :
    findRuns keep run = [run] := by
  rw [findRuns_eq_splitOnP] at member
  obtain ⟨piece, inside, rfl⟩ := List.mem_map.mp member
  obtain ⟨split, filled⟩ := List.mem_filter.mp inside
  -- Without a separator the whole run is one piece.
  rw [findRuns_eq_splitOnP, String.toList_ofList,
    List.splitOnP_eq_singleton (of_mem_splitOnP split)]
  simp [filled]

/-- The characters of a text that was trimmed at both ends. -/
theorem toList_stripBy (drop : Char → Bool) (text : String) :
    (stripBy drop text).toList = (text.toList.dropWhile drop).rdropWhile drop := by
  rw [stripBy, String.toList_ofList, List.rdropWhile]

/-- A text is stripped when neither of its ends is white space. -/
theorem strip_eq_self_iff :
    strip text = text ↔
      (∀ char ∈ text.toList.head?, isSpace char = false) ∧
        ∀ char ∈ text.toList.getLast?, isSpace char = false := by
  have front : text.toList.dropWhile isSpace = text.toList ↔
      ∀ char ∈ text.toList.head?, isSpace char = false := by
    rw [List.dropWhile_eq_self_iff]
    cases text.toList <;> simp
  have back : text.toList.rdropWhile isSpace = text.toList ↔
      ∀ char ∈ text.toList.getLast?, isSpace char = false := by
    rw [List.rdropWhile_eq_self_iff]
    rcases List.eq_nil_or_concat' text.toList with empty | ⟨front, last, split⟩
    · simp [empty]
    · simp [split]
  rw [← String.toList_inj, strip, toList_stripBy, ← front, ← back]
  constructor
  · intro same
    -- Neither trimming can shorten a text that both leave at its length.
    have short : (text.toList.dropWhile isSpace).length ≤ text.toList.length :=
      (List.dropWhile_suffix isSpace).length_le
    have inner := List.rdropWhile_prefix isSpace (text.toList.dropWhile isSpace)
    rw [same] at inner
    have kept : text.toList.dropWhile isSpace = text.toList :=
      (inner.eq_of_length_le short).symm
    exact ⟨kept, by rwa [kept] at same⟩
  · intro both
    obtain ⟨kept, also⟩ := both
    rw [kept, also]

/-- Stripping leaves nothing to strip. -/
@[simp] theorem strip_strip (text : String) : strip (strip text) = strip text := by
  rw [strip_eq_self_iff, strip, toList_stripBy]
  constructor
  · -- What the second trimming leaves starts as the first one left it.
    intro char front
    obtain ⟨rest, split⟩ := List.rdropWhile_prefix isSpace (text.toList.dropWhile isSpace)
    have head : char ∈ (text.toList.dropWhile isSpace).head? := by
      rw [← split]
      exact List.mem_head?_append_of_mem_head? front
    have stops := List.head?_dropWhile_not isSpace text.toList
    rw [Option.mem_def.mp head] at stops
    simpa using stops
  · intro char last
    obtain ⟨nonempty, rfl⟩ := List.mem_getLast?_eq_getLast last
    simpa using List.rdropWhile_last_not isSpace _ nonempty

section Characters

variable {char : Char}

/-- The decimal digits of ASCII are those from 0 to 9, and all others stand far behind. -/
theorem toNat_of_isDecimal (digit : isDecimal char = true) :
    (48 ≤ char.toNat ∧ char.toNat < 58) ∨ (0x660 ≤ char.toNat ∧ char.toNat ≠ 0x212A) := by
  -- The digits of a run follow its zero, and the zeros are listed.
  obtain ⟨base, found⟩ : ∃ base, (decimalZeros.find? fun base =>
      base ≤ char.toNat && char.toNat < base + 10) = some base := by
    simpa [isDecimal, decimalValue, Option.isSome_iff_exists] using digit
  have within : base ≤ char.toNat ∧ char.toNat < base + 10 := by simpa using List.find?_some found
  have zeros : ∀ base ∈ decimalZeros,
      base = 0x30 ∨ 0x660 ≤ base ∧ (base + 10 ≤ 0x212A ∨ 0x212A < base) := by decide
  rcases zeros base (List.mem_of_find?_eq_some found) with rfl | far
  · exact .inl within
  · exact .inr (by omega)

/-- The white space of ASCII stands in front of its letters and digits. -/
theorem toNat_of_isSpace (space : isSpace char = true) :
    char.toNat ≤ 0x20 ∨ (0x85 ≤ char.toNat ∧ char.toNat ≠ 0x130 ∧ char.toNat ≠ 0x212A) := by
  -- The list of spaces is finite, so each code is looked at.
  have codes : ∀ code ∈ spaceCodes, code ≤ 0x20 ∨ (0x85 ≤ code ∧ code ≠ 0x130 ∧ code ≠ 0x212A) := by
    decide
  exact codes char.toNat (by simpa [isSpace] using space)

/-- No decimal digit is white space. -/
theorem isSpace_of_isDecimal (digit : isDecimal char = true) : isSpace char = false := by
  -- No code point of white space lies in a run of digits.
  rw [Bool.eq_false_iff]
  intro space
  have none : ∀ code ∈ spaceCodes,
      (decimalZeros.find? fun base => base ≤ code && code < base + 10) = none := by
    decide
  have absent := none char.toNat (by simpa [isSpace] using space)
  simp [isDecimal, decimalValue, absent] at digit

/-- Characters other than the capitals of ASCII and two of Unicode keep their case. -/
theorem lowerChar_of_toNat (noCapital : char.toNat < 65 ∨ 90 < char.toNat)
    (noDotted : char.toNat ≠ 0x130) (noKelvin : char.toNat ≠ 0x212A) :
    lowerChar char = [char] := by
  -- The three branches for other characters are excluded one by one.
  have outside : ¬ ('A' ≤ char ∧ char ≤ 'Z') := by
    intro inside
    have low : 65 ≤ char.toNat := inside.1
    have high : char.toNat ≤ 90 := inside.2
    omega
  rw [lowerChar, if_neg outside, if_neg noDotted, if_neg noKelvin]

/-- A decimal digit keeps its case. -/
theorem lowerChar_of_isDecimal (digit : isDecimal char = true) : lowerChar char = [char] := by
  have place := toNat_of_isDecimal digit
  exact lowerChar_of_toNat (by omega) (by omega) (by omega)

/-- White space keeps its case. -/
theorem lowerChar_of_isSpace (space : isSpace char = true) : lowerChar char = [char] := by
  have place := toNat_of_isSpace space
  exact lowerChar_of_toNat (by omega) (by omega) (by omega)

/-- Characters that keep their case stay in a lower-cased text. -/
theorem flatMap_lowerChar {chars : List Char} (kept : ∀ char ∈ chars, lowerChar char = [char]) :
    chars.flatMap lowerChar = chars := by
  rw [List.flatMap_congr kept, List.flatMap_singleton']

end Characters

/-- A text of white space alone. -/
def IsBlank (text : String) : Prop := ∀ char ∈ text.toList, isSpace char = true

/-- White space at the back of a list is trimmed with it. -/
private theorem rdropWhile_append_of_pos {drop : Char → Bool} {chars back : List Char}
    (dropped : ∀ char ∈ back, drop char = true) :
    (chars ++ back).rdropWhile drop = chars.rdropWhile drop := by
  -- Seen from the end, everything behind is dropped first.
  have reversed : ∀ char ∈ back.reverse, drop char = true := fun char member =>
    dropped char (List.mem_reverse.mp member)
  rw [List.rdropWhile, List.reverse_append, List.dropWhile_append_of_pos reversed, List.rdropWhile]

/-- White space around a text does not survive stripping. -/
theorem strip_surrounded {front back : String} (before : IsBlank front) (after : IsBlank back)
    (text : String) : strip (front ++ text ++ back) = strip text := by
  rw [← String.toList_inj, strip, strip, toList_stripBy, toList_stripBy, String.toList_append,
    String.toList_append, List.append_assoc, List.dropWhile_append_of_pos before]
  -- A text that is white space itself leaves the white space behind it to the first trimming.
  by_cases blank : text.toList.dropWhile isSpace = []
  · have gone : back.toList.dropWhile isSpace = [] := List.dropWhile_eq_nil_iff.mpr after
    rw [List.dropWhile_append, blank]
    simp [gone]
  · rw [List.dropWhile_append, if_neg (by simpa using blank)]
    exact rdropWhile_append_of_pos after

/-- A joined text is empty only when nothing was joined, unless a text is empty. -/
theorem join_eq_empty_iff (nonempty : ∀ text ∈ texts, text ≠ "") :
    separator.intercalate texts = "" ↔ texts = [] := by
  -- The join is at least as long as its first text.
  cases texts with
  | nil => simp
  | cons first rest =>
    have present : first ≠ "" := nonempty first List.mem_cons_self
    cases rest with
    | nil => simp [present]
    | cons second rest => simp [present]

/-- A joined text starts with the first of its texts. -/
theorem prefix_join (separator first : String) (rest : List String) :
    first.toList <+: (separator.intercalate (first :: rest)).toList := by
  -- The first text is only followed by others.
  cases rest with
  | nil => simp
  | cons second rest => simp [List.append_assoc]

/-- A joined text ends with the last of its texts. -/
theorem suffix_join (separator last : String) (front : List String) :
    last.toList <:+ (separator.intercalate (front ++ [last])).toList := by
  -- The last text is only preceded by others.
  cases front with
  | nil => simp
  | cons first rest =>
    rw [String.intercalate_append_of_ne_nil (by simp) (by simp), String.toList_append,
      String.intercalate_singleton]
    exact List.suffix_append _ _

/-- The lines of a text, which always has at least one. -/
def lines (text : String) : List (List Char) := text.toList.splitOn '\n'

/-- A text without a line feed is one line. -/
theorem lines_of_single (single : '\n' ∉ text.toList) : lines text = [text.toList] := by
  -- Without a newline nothing splits the text.
  rw [lines, List.splitOn_eq_splitOnP]
  refine List.splitOnP_eq_singleton fun char member => ?_
  simpa using ne_of_mem_of_not_mem member single

/-- Texts joined by line feeds have the lines of the texts. -/
theorem lines_join (some : texts ≠ []) :
    lines ("\n".intercalate texts) = texts.flatMap lines := by
  -- The line feed behind the first text ends its last line.
  induction texts with
  | nil => exact absurd rfl some
  | cons first rest ih =>
    cases rest with
    | nil => simp
    | cons second rest =>
      rw [List.flatMap_cons, ← ih (by simp), String.intercalate_cons_cons, lines, lines, lines]
      simp only [List.splitOn_eq_splitOnP, String.toList_append]
      rw [show "\n".toList = ['\n'] from rfl, List.append_assoc, List.singleton_append]
      exact List.splitOnP_append_cons _ _ (by simp)

/-- Every text occurs in the joined text. -/
theorem occursIn_join (member : text ∈ texts) : OccursIn text (separator.intercalate texts) := by
  -- A text is the first one, or it occurs behind the first separator.
  induction texts with
  | nil => cases member
  | cons first rest ih =>
    rcases List.mem_cons.mp member with rfl | later
    · exact (prefix_join separator text rest).isInfix
    · have some : rest ≠ [] := List.ne_nil_of_mem later
      rw [String.intercalate_cons_of_ne_nil some, OccursIn, String.toList_append]
      exact (ih later).trans (List.suffix_append _ _).isInfix

/-- Stripped texts joined by a separator are stripped. -/
theorem strip_join (separator : String) (stripped : ∀ text ∈ texts, strip text = text)
    (nonempty : ∀ text ∈ texts, text ≠ "") :
    strip (separator.intercalate texts) = separator.intercalate texts := by
  have ends : ∀ text ∈ texts, text.toList ≠ [] := fun text member empty =>
    nonempty text member (String.toList_eq_nil_iff.mp empty)
  rw [strip_eq_self_iff]
  constructor
  · -- The first text decides how the joined text starts.
    cases texts with
    | nil => simp
    | cons first rest =>
      obtain ⟨behind, split⟩ := prefix_join separator first rest
      rw [← split, List.head?_append_of_ne_nil _ (ends first List.mem_cons_self)]
      exact (strip_eq_self_iff.mp (stripped first List.mem_cons_self)).1
  · rcases List.eq_nil_or_concat' texts with rfl | ⟨front, last, rfl⟩
    · simp
    · have member : last ∈ front ++ [last] := List.mem_append_right _ List.mem_cons_self
      obtain ⟨before, split⟩ := suffix_join separator last front
      rw [← split, List.getLast?_append_of_ne_nil _ (ends last member)]
      exact (strip_eq_self_iff.mp (stripped last member)).2

/-- Texts joined by blank lines have the first line of the first text. -/
theorem firstLine_join (first : String) (rest : List String) :
    firstLine ("\n\n".intercalate (first :: rest)) = firstLine first := by
  -- The separator starts with a line feed, so no line runs into the second text.
  cases rest with
  | nil => simp
  | cons second rest =>
    have prefixed := List.takeWhile_prefix (l := first.toList) fun char => decide (char ≠ '\n')
    rw [String.intercalate_cons_cons, firstLine, firstLine, String.toList_append,
      String.toList_append, List.append_assoc, List.takeWhile_append]
    split
    · rename_i whole
      rw [prefixed.eq_of_length whole]
      simp
    · rfl

/-- The first line of a stripped text is not blank. -/
theorem strip_firstLine_ne_empty (stripped : strip text = text) (nonempty : text ≠ "") :
    strip (firstLine text) ≠ "" := by
  -- The line starts with the first character, which is neither white space nor a line feed.
  intro blank
  have visible := (strip_eq_self_iff.mp stripped).1
  cases chars : text.toList with
  | nil => exact nonempty (String.toList_eq_nil_iff.mp chars)
  | cons char rest =>
    have solid : isSpace char = false := visible char (by simp [chars])
    have noFeed : char ≠ '\n' := by
      rintro rfl
      exact absurd solid (by decide)
    have empty := congrArg String.toList blank
    rw [strip, toList_stripBy, firstLine, String.toList_ofList, chars] at empty
    simp [noFeed, solid, List.rdropWhile_eq_nil_iff] at empty

end PyText
