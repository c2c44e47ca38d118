import TorqueFinder.Ingestion.ChunkSequence
import TorqueFinder.Lib.PyTextLaws

/-! Stripping the tags of an escaped fragment gives back the texts between them. -/

namespace TorqueFinder

open PyText

/-- A character that shows: one that is no white space. -/
def isVisible (char : Char) : Bool := !isSpace char

/-- The words of a text: the pieces between its runs of white space. -/
def wordsOf (text : String) : List String := findRuns isVisible text

/-- The text whose words are joined by single blanks. -/
def spaced (text : String) : String := " ".intercalate (wordsOf text)

/-! ## Collapsing white space -/

/-- White space behind a visible character does not reach over it. -/
private theorem rdropWhile_cons_visible {char : Char} (visible : isSpace char = false)
    (rest : List Char) :
    (char :: rest).rdropWhile isSpace = char :: rest.rdropWhile isSpace := by
  rw [List.rdropWhile, List.rdropWhile, List.reverse_cons, List.dropWhile_append]
  -- A visible character stays, even when all behind it is blank.
  by_cases blank : rest.reverse.dropWhile isSpace = []
  · simp [blank, visible]
  · simp [blank]

/-- A blank goes with the text behind it when nothing of that is left. -/
private theorem rdropWhile_cons_blank (rest : List Char) :
    (' ' :: rest).rdropWhile isSpace =
      if rest.rdropWhile isSpace = [] then [] else ' ' :: rest.rdropWhile isSpace := by
  have space : isSpace ' ' = true := rfl
  rw [List.rdropWhile, List.rdropWhile, List.reverse_cons, List.dropWhile_append]
  -- A blank stays only in front of something visible.
  by_cases blank : rest.reverse.dropWhile isSpace = []
  · simp [blank, space]
  · simp [blank]

/-- A run of white space that is being read leaves none at the front. -/
private theorem dropWhile_collapseFrom (inside : Bool) (chars : List Char) :
    (collapseFrom inside chars).dropWhile isSpace = collapseFrom true chars := by
  -- A run at the front is dropped whole, whether it was entered before or starts here.
  have space : isSpace ' ' = true := rfl
  induction chars generalizing inside with
  | nil => cases inside <;> rfl
  | cons char rest ih =>
    by_cases white : isSpace char = true
    · cases inside
      · simp [collapseFrom, white, space, ih]
      · simp [collapseFrom, white, ih]
    · cases inside <;> simp [collapseFrom, white]

/-- The maximal runs of a text are not empty. -/
private theorem addRun_splitRuns_nonempty (keep : Char → Bool) (chars : List Char) :
    [] ∉ addRun (splitRuns keep chars).1 (splitRuns keep chars).2 := by
  -- A run is only added when it is not empty.
  have added : ∀ front runs, [] ∉ runs → [] ∉ addRun front runs := by
    intro front runs nonempty
    cases front <;> simpa [addRun] using nonempty
  have behind : [] ∉ (splitRuns keep chars).2 := by
    induction chars with
    | nil => simp [splitRuns]
    | cons char rest ih =>
      by_cases kept : keep char = true
      · simpa [splitRuns, kept] using ih
      · simpa [splitRuns, kept] using added _ _ ih
  exact added _ _ behind

/-- Runs joined by blanks, the first one without a blank in front of it. -/
private theorem intercalate_cons_blank (front : List Char) (runs : List (List Char)) :
    [' '].intercalate (front :: runs) = front ++ runs.flatMap fun run => ' ' :: run := by
  -- The blank moves from behind a word to the front of the next.
  induction runs generalizing front with
  | nil => simp
  | cons next rest ih =>
    rw [List.intercalate_cons_cons, ih next, List.flatMap_cons]
    simp

/-- Collapsing and trimming at the back leaves the runs of visible characters, joined by blanks. -/
private theorem rdropWhile_collapseFrom (chars : List Char) :
    (collapseFrom false chars).rdropWhile isSpace =
        (splitRuns isVisible chars).1 ++
          (splitRuns isVisible chars).2.flatMap (fun run => ' ' :: run) ∧
      (collapseFrom true chars).rdropWhile isSpace =
        [' '].intercalate (addRun (splitRuns isVisible chars).1 (splitRuns isVisible chars).2) := by
  -- A text read outside a run may start with a blank, one read inside a run never does.
  induction chars with
  | nil => simp [collapseFrom, splitRuns, addRun]
  | cons char rest ih =>
    obtain ⟨outside, inside⟩ := ih
    by_cases white : isSpace char = true
    · have hidden : isVisible char = false := by simp [isVisible, white]
      -- The blank is kept only if a word follows it.
      have runs : ∀ pieces : List (List Char), [] ∉ pieces →
          (if [' '].intercalate pieces = [] then [] else ' ' :: [' '].intercalate pieces) =
            pieces.flatMap fun run => ' ' :: run := by
        intro pieces nonempty
        cases pieces with
        | nil => simp
        | cons first more =>
          have filled : first ≠ [] := fun empty => nonempty (empty ▸ List.mem_cons_self)
          rw [intercalate_cons_blank]
          simp [filled]
      constructor
      · rw [collapseFrom, if_pos white, if_neg Bool.false_ne_true, rdropWhile_cons_blank, inside,
          runs _ (addRun_splitRuns_nonempty isVisible rest)]
        simp [splitRuns, hidden]
      · rw [collapseFrom, if_pos white, if_pos rfl, inside]
        simp [splitRuns, hidden, addRun]
    · have solid : isSpace char = false := by simpa using white
      have shown : isVisible char = true := by simp [isVisible, solid]
      -- A visible character starts or continues a word.
      have kept : ∀ reading, (collapseFrom reading (char :: rest)).rdropWhile isSpace =
          char :: (collapseFrom false rest).rdropWhile isSpace := by
        intro reading
        rw [collapseFrom, if_neg white, rdropWhile_cons_visible solid]
      constructor
      · rw [kept, outside]
        simp [splitRuns, shown]
      · rw [kept, outside]
        simp [splitRuns, shown, addRun, intercalate_cons_blank]

/-- Collapsing and stripping a text joins its words by single blanks. -/
theorem strip_collapseSpaces (text : String) : strip (collapseSpaces text) = spaced text := by
  -- Both ends are cut, and the words in between stand one blank apart.
  have joined := (rdropWhile_collapseFrom text.toList).2
  rw [← String.toList_inj, strip, toList_stripBy, collapseSpaces, String.toList_ofList,
    dropWhile_collapseFrom, joined, spaced, wordsOf, findRuns, String.toList_intercalate]
  simp

/-- Collapsing white space keeps every visible character. -/
private theorem filter_collapseFrom (inside : Bool) (chars : List Char) :
    (collapseFrom inside chars).filter isVisible = chars.filter isVisible := by
  -- A run leaves at most a blank, which does not show.
  have space : isVisible ' ' = false := rfl
  induction chars generalizing inside with
  | nil => cases inside <;> rfl
  | cons char rest ih =>
    by_cases white : isSpace char = true
    · have hidden : isVisible char = false := by simp [isVisible, white]
      cases inside <;> simp [collapseFrom, white, hidden, space, ih]
    · simp [collapseFrom, white, List.filter_cons, ih]

/-- Trimming white space keeps every visible character. -/
private theorem filter_dropWhile (chars : List Char) :
    (chars.dropWhile isSpace).filter isVisible = chars.filter isVisible := by
  -- Only blanks are dropped, and the filter drops them anyway.
  induction chars with
  | nil => rfl
  | cons char rest ih =>
    by_cases white : isSpace char = true
    · simpa [white, isVisible] using ih
    · simp [white]

/-- The words of a text hold its visible characters, in their order. -/
theorem filter_spaced (text : String) :
    (spaced text).toList.filter isVisible = text.toList.filter isVisible := by
  -- Stripping the collapsed text gives the words, and neither step drops what shows.
  have back : ∀ chars : List Char,
      (chars.rdropWhile isSpace).filter isVisible = chars.filter isVisible := by
    intro chars
    rw [List.rdropWhile, List.filter_reverse, filter_dropWhile, ← List.filter_reverse,
      List.reverse_reverse]
  rw [← strip_collapseSpaces, strip, toList_stripBy, back, filter_dropWhile, collapseSpaces,
    String.toList_ofList, filter_collapseFrom]

/-! ## Blanking tags -/

/-- The escape of one character. -/
def escapeChar (char : Char) : List Char :=
  -- These are the five characters that html.escape replaces.
  if char = '&' then "&amp;".toList
  else if char = '<' then "&lt;".toList
  else if char = '>' then "&gt;".toList
  else if char = '"' then "&quot;".toList
  else if char = '\'' then "&#x27;".toList
  else [char]

/-- `html.escape(text)`. -/
def escape (text : String) : String := String.ofList (text.toList.flatMap escapeChar)

/-- A tag with the text behind it, both as they are written in a fragment. -/
structure TaggedText where
  /-- What stands between the brackets of the tag. -/
  body : List Char
  text : String
  nonempty : body ≠ []
  unclosed : '>' ∉ body

/-- A tag in front of its escaped text. -/
def TaggedText.render (tagged : TaggedText) : String :=
  "<" ++ String.ofList tagged.body ++ ">" ++ escape tagged.text

/-- A fragment of escaped texts with a tag between any two of them. -/
def renderTexts (first : String) (rest : List TaggedText) : String :=
  escape first ++ String.join (rest.map TaggedText.render)

/-- An escaped text holds no bracket. -/
theorem bracket_notMem_escape (text : String) : '<' ∉ (escape text).toList := by
  -- No entity holds a bracket, and the bracket itself is escaped.
  have single : ∀ char, '<' ∉ escapeChar char := by
    intro char
    unfold escapeChar
    split_ifs with ampersand opening <;> simp [Ne.symm _, *]
  rw [escape, String.toList_ofList]
  intro member
  obtain ⟨char, _, inside⟩ := List.mem_flatMap.mp member
  exact single char inside

/-- A text without a bracket is left as it is. -/
private theorem blankTagsFrom_plain {plain : List Char} (noBracket : '<' ∉ plain)
    (rest : List Char) :
    blankTagsFrom none (plain ++ rest) = plain ++ blankTagsFrom none rest := by
  -- Outside a tag everything but a bracket is kept.
  induction plain with
  | nil => rfl
  | cons char more ih =>
    obtain ⟨different, later⟩ := List.ne_and_not_mem_of_not_mem_cons noBracket
    simp [blankTagsFrom, Ne.symm different, ih later]

/-- A bracket that has been opened is blanked with everything up to the bracket that closes it. -/
private theorem blankTagsFrom_opened {body : List Char} (unclosed : '>' ∉ body)
    (opened : List Char) (nonempty : opened ≠ [] ∨ body ≠ []) (rest : List Char) :
    blankTagsFrom (some opened) (body ++ '>' :: rest) = ' ' :: blankTagsFrom none rest := by
  -- The body is read up to the bracket, whatever has been read of the tag before.
  induction body generalizing opened with
  | nil =>
    have read : opened ≠ [] := by simpa using nonempty
    simp [blankTagsFrom, read]
  | cons char more ih =>
    obtain ⟨different, later⟩ := List.ne_and_not_mem_of_not_mem_cons unclosed
    simp [blankTagsFrom, Ne.symm different, ih later (char :: opened) (.inl (by simp))]

/-- Blanking the tags of a fragment leaves the escape of the texts joined by blanks. -/
theorem blankTags_renderTexts (first : String) (rest : List TaggedText) :
    blankTags (renderTexts first rest) =
      escape (" ".intercalate (first :: rest.map TaggedText.text)) := by
  -- Each tag is read whole, since the text in front of it opens none and its body closes none.
  have blanked : ∀ first : String,
      blankTagsFrom none (renderTexts first rest).toList =
        (" ".intercalate (first :: rest.map TaggedText.text)).toList.flatMap escapeChar := by
    induction rest with
    | nil =>
      intro first
      have plain := blankTagsFrom_plain (bracket_notMem_escape first) []
      simpa [renderTexts, blankTagsFrom, escape] using plain
    | cons tagged more ih =>
      intro first
      have split : (renderTexts first (tagged :: more)).toList =
          (escape first).toList ++
            '<' :: (tagged.body ++ '>' :: (renderTexts tagged.text more).toList) := by
        simp [renderTexts, TaggedText.render]
      have opened := blankTagsFrom_opened tagged.unclosed [] (.inr tagged.nonempty)
        (renderTexts tagged.text more).toList
      have blank : escapeChar ' ' = [' '] := rfl
      rw [split, blankTagsFrom_plain (bracket_notMem_escape first), blankTagsFrom, if_pos rfl,
        opened, ih tagged.text, List.map_cons, String.intercalate_cons_cons]
      simp [escape, blank]
  rw [blankTags, escape, blanked]

variable {library : PageLibrary}

/-- Stripping a fragment joins the words of its texts. -/
private theorem stripHtml_eq_spaced (inverse : ∀ text, library.unescape (escape text) = text)
    (first : String) (rest : List TaggedText) :
    stripHtml library (renderTexts first rest) =
      spaced (" ".intercalate (first :: rest.map TaggedText.text)) := by
  -- The tags become blanks before the entities are read.
  rw [stripHtml, blankTags_renderTexts, inverse, strip_collapseSpaces]

/-- The content of a block written as a fragment is the words of its texts. -/
theorem contentTexts_renderTexts (inverse : ∀ text, library.unescape (escape text) = text)
    (first : String) (rest : List TaggedText) :
    contentTexts library (.str (renderTexts first rest)) =
      .ok (nonEmpty (spaced (" ".intercalate (first :: rest.map TaggedText.text)))).toList := by
  -- A fragment without visible text gives no text at all.
  rw [contentTexts, stripHtml_eq_spaced inverse]

/-- Texts joined by blanks have the visible characters of the texts. -/
private theorem filter_intercalate (texts : List String) :
    (" ".intercalate texts).toList.filter isVisible =
      texts.flatMap fun text => text.toList.filter isVisible := by
  -- The blanks between the texts do not show.
  have blank : isVisible ' ' = false := rfl
  induction texts with
  | nil => rfl
  | cons text more ih =>
    cases more with
    | nil => simp
    | cons next later =>
      rw [String.intercalate_cons_cons, List.flatMap_cons, ← ih]
      simp [blank]

/-- Stripping a fragment gives the words of its texts, and every visible character of them. -/
theorem stripHtml_renderTexts (inverse : ∀ text, library.unescape (escape text) = text)
    (first : String) (rest : List TaggedText) :
    stripHtml library (renderTexts first rest) =
        spaced (" ".intercalate (first :: rest.map TaggedText.text)) ∧
      (stripHtml library (renderTexts first rest)).toList.filter isVisible =
        (first :: rest.map TaggedText.text).flatMap fun text => text.toList.filter isVisible := by
  -- Putting blanks between words drops no visible character.
  have stripped := stripHtml_eq_spaced inverse first rest
  refine ⟨stripped, ?_⟩
  rw [stripped, filter_spaced, filter_intercalate]

/-- `html.unescape`, on the five entities an escape writes. -/
def unescapeChars : List Char → List Char
  -- The entities that escaping writes, each of them read back.
  | '&' :: 'a' :: 'm' :: 'p' :: ';' :: rest => '&' :: unescapeChars rest
  | '&' :: 'l' :: 't' :: ';' :: rest => '<' :: unescapeChars rest
  | '&' :: 'g' :: 't' :: ';' :: rest => '>' :: unescapeChars rest
  | '&' :: 'q' :: 'u' :: 'o' :: 't' :: ';' :: rest => '"' :: unescapeChars rest
  | '&' :: '#' :: 'x' :: '2' :: '7' :: ';' :: rest => '\'' :: unescapeChars rest
  | char :: rest => char :: unescapeChars rest
  | [] => []

/-- A library that knows these entities. -/
def entityLibrary : PageLibrary :=
  { manualLibrary "" .null with unescape := fun text => String.ofList (unescapeChars text.toList) }

/-- Unescaping the entities undoes the escape of every text. -/
theorem entityLibrary_inverse (text : String) : entityLibrary.unescape (escape text) = text := by
  -- Each entity is read back at once, and any other character is left alone.
  have single : ∀ char rest,
      unescapeChars (escapeChar char ++ rest) = char :: unescapeChars rest := by
    intro char rest
    unfold escapeChar
    split_ifs with ampersand opening closing quote apostrophe
    · simp [ampersand, unescapeChars]
    · simp [opening, unescapeChars]
    · simp [closing, unescapeChars]
    · simp [quote, unescapeChars]
    · simp [apostrophe, unescapeChars]
    · simp [unescapeChars, ampersand]
  have whole : ∀ chars : List Char, unescapeChars (chars.flatMap escapeChar) = chars := by
    intro chars
    induction chars with
    | nil => rfl
    | cons char rest ih => rw [List.flatMap_cons, single, ih]
  rw [← String.toList_inj]
  simp [entityLibrary, escape, whole]

/-- A bound written with an escaped bracket comes out of its tags. -/
theorem stripHtml_renderTexts_bound :
    stripHtml entityLibrary (renderTexts " torque"
      [⟨['b', ' ', '<'], "< 6 N·m\n", by decide, by decide⟩,
        ⟨['/', 'b'], "& up", by decide, by decide⟩]) = "torque < 6 N·m & up" :=
  -- An escaped bracket between tags is shown as a bracket.
  (stripHtml_renderTexts entityLibrary_inverse " torque" _).1.trans (by decide)

end TorqueFinder
