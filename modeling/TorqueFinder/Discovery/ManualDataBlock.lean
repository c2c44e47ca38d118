import Mathlib.Data.List.TakeWhile
import TorqueFinder.Discovery.PublicationProbe

/-! What the data block of a page is, and that the probe reads back what was put into one. -/

namespace TorqueFinder

open PyText

variable {pattern text front : List Char}

/-- A pattern occurs in a text, whatever its case. -/
def ContainsFolded (pattern text : List Char) : Prop :=
  ∃ piece, piece <:+: text ∧ piece.map foldCase = pattern

/-- What opens a script. -/
def scriptOpening : List Char := "<script".toList

/-- What names the script that carries the data. -/
def manualDataId : List Char := "id=\"manual-data\"".toList

/-- What closes a script. -/
def scriptClosing : List Char := "</script>".toList

/-- The tag that opens a data block: a script tag with the identifier among its attributes. -/
def IsManualDataTag (tag : List Char) : Prop :=
  -- The tag may be in any case, and have other attributes around its id.
  ∃ opening attributes, tag = opening ++ (attributes ++ ['>']) ∧
    opening.map foldCase = scriptOpening ∧ '>' ∉ attributes ∧
      ContainsFolded manualDataId attributes

/-- A text starts with a pattern when one of its prefixes folds to it. -/
theorem startsWithFolded_iff :
    startsWithFolded pattern text = true ↔
      ∃ piece back, text = piece ++ back ∧ piece.map foldCase = pattern := by
  -- Pattern and text are read side by side.
  induction pattern generalizing text with
  | nil => simp [startsWithFolded]
  | cons letter rest ih =>
    cases text with
    | nil => simp [startsWithFolded]
    | cons char text =>
      rw [startsWithFolded, Bool.and_eq_true, decide_eq_true_iff, ih]
      constructor
      · intro both
        obtain ⟨same, piece, back, rfl, folded⟩ := both
        exact ⟨char :: piece, back, rfl, by simp [same, folded]⟩
      · intro found
        obtain ⟨piece, back, split, folded⟩ := found
        cases piece with
        | nil => simp at folded
        | cons first piece =>
          obtain ⟨rfl, rfl⟩ := List.cons.inj split
          obtain ⟨same, behind⟩ := List.cons.inj folded
          exact ⟨same, piece, back, rfl, behind⟩

/-- A pattern that a text starts with occurs in it. -/
theorem containsFolded_of_startsWithFolded (starts : startsWithFolded pattern text = true) :
    ContainsFolded pattern text := by
  -- The start of a text is a stretch of it.
  obtain ⟨piece, back, rfl, folded⟩ := startsWithFolded_iff.mp starts
  exact ⟨piece, ⟨[], back, by simp⟩, folded⟩

/-- A pattern that occurs in a part of a text occurs in the text. -/
theorem ContainsFolded.mono (found : ContainsFolded pattern front) (part : front <:+: text) :
    ContainsFolded pattern text := by
  -- A stretch of a stretch is a stretch.
  obtain ⟨piece, inside, folded⟩ := found
  exact ⟨piece, inside.trans part, folded⟩

/-- The search for a pattern fails exactly when the pattern does not occur. -/
theorem beforeFolded_eq_none_iff (nonempty : pattern ≠ []) :
    beforeFolded pattern text = none ↔ ¬ ContainsFolded pattern text := by
  have filled : pattern.isEmpty = false := by simpa using nonempty
  induction text with
  | nil =>
    have absent : ¬ ContainsFolded pattern [] := by
      intro found
      obtain ⟨piece, inside, folded⟩ := found
      obtain rfl := List.infix_nil.mp inside
      exact nonempty folded.symm
    simp [beforeFolded, filled, absent]
  | cons char rest ih =>
    by_cases starts : startsWithFolded pattern (char :: rest) = true
    · simp [beforeFolded, starts, containsFolded_of_startsWithFolded starts]
    · rw [beforeFolded, if_neg starts, Option.map_eq_none_iff]
      refine ih.trans (not_congr ⟨fun found => found.mono (List.suffix_cons char rest).isInfix, ?_⟩)
      intro found
      obtain ⟨piece, inside, folded⟩ := found
      -- An occurrence that does not start the text lies behind its first character.
      rcases List.infix_cons_iff.mp inside with ahead | behind
      · obtain ⟨back, split⟩ := ahead
        exact absurd (startsWithFolded_iff.mpr ⟨piece, back, split.symm, folded⟩) starts
      · exact ⟨piece, behind, folded⟩

/-- A closed text ends where its closing stands, unless the pattern occurs in it before. -/
theorem beforeFolded_closed {letter : Char} {letters close back : List Char}
    (once : letter ∉ letters) (folded : close.map foldCase = letter :: letters)
    (absent : ¬ ContainsFolded (letter :: letters) front) :
    beforeFolded (letter :: letters) (front ++ (close ++ back)) = some front := by
  obtain ⟨first, closing, rfl, same, _⟩ := List.map_eq_cons_iff.mp folded
  induction front with
  | nil =>
    have starts : startsWithFolded (letter :: letters) (first :: closing ++ back) = true :=
      startsWithFolded_iff.mpr ⟨_, _, rfl, folded⟩
    simpa [beforeFolded] using starts
  | cons char rest ih =>
    have later := ih fun found => absent (found.mono (List.suffix_cons char rest).isInfix)
    have waits : ¬ startsWithFolded (letter :: letters)
        (char :: rest ++ (first :: closing ++ back)) = true := by
      intro starts
      obtain ⟨piece, behind, split, match_⟩ := startsWithFolded_iff.mp starts
      rcases List.append_eq_append_iff.mp split with ⟨inner, rfl, cut⟩ | ⟨inner, whole, _⟩
      · -- The piece runs into the closing, whose first letter it has behind its own first.
        cases inner with
        | nil => exact absent ⟨char :: rest, List.infix_rfl, by simpa using match_⟩
        | cons next inner =>
          obtain ⟨rfl, _⟩ := List.cons.inj cut
          obtain ⟨_, tail⟩ := List.cons.inj match_
          exact once (tail ▸ by simp [same])
      · exact absent ⟨piece, ⟨[], inner, by simp [whole]⟩, match_⟩
    rw [List.cons_append, beforeFolded, if_neg (by simpa using waits), later]
    rfl

/-- The identifier is a pattern that can be missed. -/
private theorem manualDataId_ne_nil : manualDataId ≠ [] := by decide

/-- So is the tag that closes a script. -/
private theorem scriptClosing_ne_nil : scriptClosing ≠ [] := by decide

/-- The front of a text up to its first bracket is determined by the text. -/
private theorem firstBracket_unique {front other back rest : List Char}
    (same : front ++ '>' :: back = other ++ '>' :: rest) (noBracket : '>' ∉ front)
    (alsoNone : '>' ∉ other) : front = other ∧ back = rest := by
  -- If one front were longer it would hold the bracket that ends the other.
  rcases List.append_eq_append_iff.mp same with ⟨inner, rfl, cut⟩ | ⟨inner, rfl, cut⟩
  · cases inner with
    | nil => simpa using cut
    | cons next inner =>
      obtain ⟨rfl, _⟩ := List.cons.inj cut
      simp at alsoNone
  · cases inner with
    | nil => simpa using cut.symm
    | cons next inner =>
      obtain ⟨rfl, _⟩ := List.cons.inj cut
      simp at noBracket

variable {opening attributes content group : List Char}

/-- The probe at one position, with its tag cut at the first bracket. -/
private theorem manualDataAt_eq (text : List Char) :
    manualDataAt text =
      if startsWithFolded scriptOpening text then
        if (beforeFolded manualDataId
            ((text.drop scriptOpening.length).takeWhile (· ≠ '>'))).isSome then
          match (text.drop scriptOpening.length).dropWhile (· ≠ '>') with
          | _ :: content => beforeFolded scriptClosing content
          | [] => none
        else none
      else none := by
  -- Dropping what was taken up to the bracket leaves what starts at the bracket.
  have cut : ∀ tag : List Char,
      tag.drop (tag.takeWhile (· ≠ '>')).length = tag.dropWhile (· ≠ '>') := by
    intro tag
    have whole := List.takeWhile_append_dropWhile (p := (· ≠ '>')) (l := tag)
    nth_rewrite 2 [← whole]
    exact List.drop_left
  rw [← cut]
  rfl

/-- A script tag with the identifier gives what stands in front of the closing behind it. -/
theorem manualDataAt_of_tag (opened : opening.map foldCase = scriptOpening)
    (noBracket : '>' ∉ attributes) (named : ContainsFolded manualDataId attributes) :
    manualDataAt (opening ++ (attributes ++ '>' :: content)) =
      beforeFolded scriptClosing content := by
  -- The tag is cut at its only bracket, which leaves the attributes in front of it.
  have length : scriptOpening.length = opening.length := by
    rw [← opened, List.length_map]
  have starts : startsWithFolded scriptOpening (opening ++ (attributes ++ '>' :: content)) = true :=
    startsWithFolded_iff.mpr ⟨opening, _, rfl, opened⟩
  have unclosed : ∀ char ∈ attributes, decide (char ≠ '>') = true := by
    intro char member
    simpa using ne_of_mem_of_not_mem member noBracket
  have found : (beforeFolded manualDataId attributes).isSome = true := by
    rw [Option.isSome_iff_ne_none]
    exact fun missing => (beforeFolded_eq_none_iff manualDataId_ne_nil).mp missing named
  have read : (attributes ++ '>' :: content).takeWhile (· ≠ '>') = attributes := by
    rw [List.takeWhile_append_of_pos unclosed]
    simp
  have rest : (attributes ++ '>' :: content).dropWhile (· ≠ '>') = '>' :: content := by
    rw [List.dropWhile_append_of_pos unclosed]
    simp
  rw [manualDataAt_eq, if_pos starts, length, List.drop_left, read, if_pos found, rest]

/-- What the probe reads at a position is introduced by a script tag with the identifier. -/
theorem tag_of_manualDataAt (found : manualDataAt text = some group) :
    ∃ opening attributes content, text = opening ++ (attributes ++ '>' :: content) ∧
      opening.map foldCase = scriptOpening ∧ '>' ∉ attributes ∧
        ContainsFolded manualDataId attributes ∧
          beforeFolded scriptClosing content = some group := by
  rw [manualDataAt_eq] at found
  split at found
  · rename_i starts
    obtain ⟨opening, tag, rfl, opened⟩ := startsWithFolded_iff.mp starts
    have length : scriptOpening.length = opening.length := by
      rw [← opened, List.length_map]
    rw [length, List.drop_left] at found
    split at found
    · rename_i named
      split at found
      · rename_i bracket content rest
        have whole := List.takeWhile_append_dropWhile (p := (· ≠ '>')) (l := tag)
        have stops := List.head?_dropWhile_not (· ≠ '>') tag
        rw [rest] at whole stops
        -- What follows the attributes is the character they stopped at.
        obtain rfl : bracket = '>' := by simpa using stops
        refine ⟨opening, tag.takeWhile (· ≠ '>'), content, by rw [whole], opened, ?_, ?_, found⟩
        · intro member
          simpa using List.mem_takeWhile_imp member
        · by_contra absent
          rw [(beforeFolded_eq_none_iff manualDataId_ne_nil).mpr absent] at named
          cases named
      · cases found
    · cases found
  · cases found

/-- What a search finds stands at some position of the text. -/
theorem manualDataAt_of_search (found : searchManualData text = some group) :
    ∃ front rest, text = front ++ rest ∧ manualDataAt rest = some group := by
  -- A search that fails here goes on one character later.
  induction text with
  | nil => cases found
  | cons char rest ih =>
    rw [searchManualData] at found
    split at found
    · rename_i here
      exact ⟨[], char :: rest, rfl, found ▸ here⟩
    · obtain ⟨front, behind, rfl, here⟩ := ih found
      exact ⟨char :: front, behind, rfl, here⟩

/-- A piece that folds to the opening of a script holds no closing bracket. -/
private theorem bracket_notMem_opening (opened : opening.map foldCase = scriptOpening) :
    '>' ∉ opening := by
  -- Folding the case makes no bracket.
  intro member
  have letter : foldCase '>' ∈ scriptOpening := opened ▸ List.mem_map_of_mem member
  exact absurd letter (by decide)

/-- A search reads the first data block, whatever unfinished tags stand in front of it. -/
theorem searchManualData_block {data : List Char}
    (noTag : ∀ tag, tag <:+: front → ¬ IsManualDataTag tag)
    (opened : opening.map foldCase = scriptOpening) (noBracket : '>' ∉ attributes)
    (named : ContainsFolded manualDataId attributes)
    (closed : beforeFolded scriptClosing content = some data) :
    searchManualData (front ++ (opening ++ (attributes ++ '>' :: content))) = some data := by
  have block : manualDataAt (opening ++ (attributes ++ '>' :: content)) = some data := by
    rw [manualDataAt_of_tag opened noBracket named, closed]
  induction front with
  -- The block begins here, and its opening holds a first character.
  | nil =>
    obtain ⟨first, letters, rfl, _⟩ := List.map_eq_cons_iff.mp opened
    rw [List.nil_append, List.cons_append, searchManualData, ← List.cons_append, block]
  | cons char rest ih =>
    have later := ih fun tag inside => noTag tag (inside.trans (List.suffix_cons char rest).isInfix)
    rw [List.cons_append, searchManualData]
    split
    · -- A match that starts earlier would have a tag of its own.
      rename_i group here
      obtain ⟨script, read, behind, split, alsoOpened, unclosed, alsoNamed, ends⟩ :=
        tag_of_manualDataAt here
      have tagFree : '>' ∉ script ++ read := by
        simp [bracket_notMem_opening alsoOpened, unclosed]
      rw [← List.cons_append, ← List.append_assoc script] at split
      by_cases bracket : '>' ∈ char :: rest
      · -- The first bracket is in front of the block, so the whole tag is.
        obtain ⟨before, after, cut, first⟩ := List.eq_append_cons_of_mem bracket
        rw [cut, List.append_assoc, List.cons_append] at split
        obtain ⟨same, _⟩ := firstBracket_unique split first tagFree
        have tag : IsManualDataTag (script ++ (read ++ ['>'])) :=
          ⟨script, read, rfl, alsoOpened, unclosed, alsoNamed⟩
        refine absurd tag (noTag _ ⟨[], after, ?_⟩)
        rw [cut, same]
        simp
      · -- The first bracket is that of the block, so the tag ends with the block's own.
        have blockFree : '>' ∉ char :: rest ++ (opening ++ attributes) := by
          simpa [bracket_notMem_opening opened, noBracket] using bracket
        rw [← List.append_assoc opening, ← List.append_assoc (char :: rest)] at split
        obtain ⟨_, rfl⟩ := firstBracket_unique split blockFree tagFree
        rw [← ends, closed]
    · exact later

/-- What is put into a data block is read back, and a page without a closed block is refused. -/
theorem extractManualDataJson_roundTrip :
    (∀ before attributes more data after : String,
      (∀ tag, tag <:+: before.toList → ¬ IsManualDataTag tag) →
      '>' ∉ attributes.toList → '>' ∉ more.toList →
      ¬ ContainsFolded scriptClosing data.toList →
        extractManualDataJson (before ++ "<script " ++ attributes ++ "id=\"manual-data\"" ++ more ++
          ">" ++ data ++ "</script>" ++ after) = .ok (strip data)) ∧
    ∀ html : String,
      (∀ front tag back, html.toList = front ++ (tag ++ back) → IsManualDataTag tag →
        ¬ ContainsFolded scriptClosing back) →
        extractManualDataJson html =
          .error ⟨"publication HTML has no <script id='manual-data'> block"⟩ := by
  -- The block is the first tag that closes; without such a tag there is nothing to find.
  constructor
  · intro before attributes more data after noTag noBracket alsoNone unclosed
    -- The tag has no bracket before its own.
    have inner : '>' ∉ ' ' :: attributes.toList ++ (manualDataId ++ more.toList) := by
      simpa [noBracket, alsoNone] using (by decide : '>' ∉ manualDataId)
    have named : ContainsFolded manualDataId
        (' ' :: attributes.toList ++ (manualDataId ++ more.toList)) :=
      ⟨manualDataId, ⟨_, _, (List.append_assoc _ _ _)⟩, by decide⟩
    have closed : beforeFolded scriptClosing (data.toList ++ (scriptClosing ++ after.toList)) =
        some data.toList := beforeFolded_closed (by decide) (by decide) unclosed
    have opened : scriptOpening.map foldCase = scriptOpening := by decide
    have found := searchManualData_block noTag opened inner named closed
    have whole : (before ++ "<script " ++ attributes ++ "id=\"manual-data\"" ++ more ++ ">" ++
        data ++ "</script>" ++ after).toList = before.toList ++ (scriptOpening ++
          (' ' :: attributes.toList ++ (manualDataId ++ more.toList) ++
            '>' :: (data.toList ++ (scriptClosing ++ after.toList)))) := by
      simp only [String.toList_append, List.append_assoc, List.cons_append]
      rfl
    rw [extractManualDataJson, whole, found]
    simp
  · -- A match would have a tag whose script closes.
    intro html absent
    have missing : searchManualData html.toList = none := by
      by_contra present
      obtain ⟨group, found⟩ := Option.ne_none_iff_exists'.mp present
      obtain ⟨front, rest, split, here⟩ := manualDataAt_of_search found
      obtain ⟨opening, attributes, content, rfl, opened, noBracket, named, ends⟩ :=
        tag_of_manualDataAt here
      have tag : IsManualDataTag (opening ++ (attributes ++ ['>'])) :=
        ⟨opening, attributes, rfl, opened, noBracket, named⟩
      have unclosed := absent front _ content (by simpa using split) tag
      rw [(beforeFolded_eq_none_iff scriptClosing_ne_nil).mpr unclosed] at ends
      cases ends
    rw [extractManualDataJson, missing]

/-- An unfinished script in front of a block does not matter, a block that is never closed does. -/
theorem extractManualDataJson_roundTrip_titles :
    extractManualDataJson ("<p <SCRIPT " ++ "<script " ++ "type=\"a\" " ++ "id=\"manual-data\"" ++
        " defer" ++ ">" ++ " \"Reverb </p>\"\n" ++ "</script>" ++ "<script>") =
          .ok (strip " \"Reverb </p>\"\n") ∧
      extractManualDataJson "<script id=\"manual-data\">1</p>" =
        .error ⟨"publication HTML has no <script id='manual-data'> block"⟩ := by
  -- The unfinished script in front holds no bracket, so it is no tag.
  constructor
  · refine extractManualDataJson_roundTrip.1 _ _ _ _ _ ?_ (by decide) (by decide) ?_
    · intro tag inside tagged
      obtain ⟨opening, attributes, rfl, _⟩ := tagged
      have bracket : '>' ∈ "<p <SCRIPT ".toList := inside.subset (by simp)
      exact absurd bracket (by decide)
    · exact (beforeFolded_eq_none_iff scriptClosing_ne_nil).mp (by decide)
  · refine extractManualDataJson_roundTrip.2 _ fun front tag back split _ found => ?_
    have whole : ContainsFolded scriptClosing "<script id=\"manual-data\">1</p>".toList :=
      found.mono (split ▸ ⟨front ++ tag, [], by simp⟩)
    exact (beforeFolded_eq_none_iff scriptClosing_ne_nil).mp (by decide) whole

end TorqueFinder
