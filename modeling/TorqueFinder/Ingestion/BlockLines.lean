import TorqueFinder.Ingestion.ChunkSequence
import TorqueFinder.Lib.FirstOccurrence

/-! The lines of a block: none of its texts is lost, and when captions of an image stay together. -/

namespace TorqueFinder

open PyText PyJson ExceptFlow FirstOccurrence

/-- The content is the value, or holds it in lists nested to any depth. -/
inductive Reaches : Json → Json → Prop where
  | self (content : Json) : Reaches content content
  | item {items : List Json} {item value : Json} (member : item ∈ items)
    (within : Reaches item value) : Reaches (.arr items) value

/-- A child that is typed as a tool list. -/
def IsToolList (library : PageLibrary) (child : Json) : Prop :=
  library.str ((child.get "type").or (.str "")) = .ok "toolList"

/-- The image dicts of a block: its own and those of the dicts in its content. -/
inductive IsImageOf (child image : Json) : Prop where
  | own (listed : image ∈ itemsOf (child.get "images")) (object : isObject image = true)
  | nested {fields : List (String × Json)} (reached : Reaches (child.get "content") (.obj fields))
    (listed : image ∈ itemsOf (Json.get (.obj fields) "images")) (object : isObject image = true)

/-- The captions of an image that are texts and not blank, stripped, in caption order. -/
def stringCaptions (image : Json) : List String :=
  -- Only captions that are texts in the JSON are considered.
  ["caption1", "caption2", "caption3"].filterMap fun key =>
    match image.get key with
    | .str text => nonEmpty (strip text)
    | _ => none

/-- The texts a block owes its reader: its captions and the paragraphs of its content. -/
inductive Shown (library : PageLibrary) (child : Json) : String → Prop where
  | caption {image : Json} {text : String} (owned : IsImageOf child image)
    (held : text ∈ stringCaptions image) : Shown library child text
  | fragment {fragment : String} (reached : Reaches (child.get "content") (.str fragment))
    (visible : stripHtml library fragment ≠ "") : Shown library child (stripHtml library fragment)
  | item {fields : List (String × Json)} {fragment : String}
    (reached : Reaches (child.get "content") (.obj fields))
    (first : itemText (.obj fields) = some fragment)
    (visible : stripHtml library fragment ≠ "") : Shown library child (stripHtml library fragment)

/-- The texts of a block that is no tool list, in the order found and with repetitions. -/
def blockParts (library : PageLibrary) (child : Json) : Except PyException (List String) := do
  -- The title comes first and the tools last, as in the chunk.
  let title ← strippedText library (child.get "title")
  let texts ← contentTexts library (child.get "content")
  let captions ← imageCaptions library (child.get "images")
  let tools ← toolListText library (child.get "toolList")
  return (nonEmpty title).toList ++ (texts ++ captions) ++ (nonEmpty tools).toList

variable {library : PageLibrary} {child image content value : Json} {text : String}
  {texts parts : List String}

section Captions

/-- A text caption that is not blank is one of the captions of its image. -/
theorem mem_captionsOf {captions : List String} (held : text ∈ stringCaptions image)
    (read : captionsOf library image = .ok captions) : text ∈ captions := by
  obtain ⟨all, mapped, same⟩ := bind_eq_ok.mp read
  obtain rfl := pure_eq_ok.mp same
  obtain ⟨key, listed, found⟩ := List.mem_filterMap.mp held
  obtain ⟨caption, inside, stripped⟩ := right_of_forall₂ (mapM_eq_ok.mp mapped) listed
  refine List.mem_filterMap.mpr ⟨caption, inside, ?_⟩
  -- The value is a text, which is its own string.
  cases value : image.get key with
  | str raw =>
    rw [value] at found stripped
    have own : strippedText library (.str raw) = .ok (strip raw) := by
      unfold strippedText Json.or
      by_cases empty : raw = ""
      · simp [empty, Json.truthy, library.str_str, Functor.map, Except.map]
      · simp [empty, Json.truthy, library.str_str, Functor.map, Except.map]
    rw [own] at stripped
    obtain rfl := Except.ok.inj stripped
    exact found
  | _ => simp [value] at found

/-- The captions of an image object are among those of the images. -/
theorem captionsOf_subset {images : Json} (listed : image ∈ itemsOf images)
    (object : isObject image = true) (read : imageCaptions library images = .ok texts) :
    ∃ captions, captionsOf library image = .ok captions ∧ captions ⊆ texts := by
  -- Only objects are asked for captions, and this image is one.
  cases images with
  | arr items =>
    obtain ⟨all, mapped, same⟩ := bind_eq_ok.mp read
    obtain rfl := pure_eq_ok.mp same
    have kept : image ∈ items.filter isObject := List.mem_filter.mpr ⟨listed, object⟩
    obtain ⟨captions, inside, own⟩ := right_of_forall₂ (mapM_eq_ok.mp mapped) kept
    exact ⟨captions, own, fun caption member => List.mem_flatten.mpr ⟨captions, inside, member⟩⟩
  | _ => cases listed

/-- The text captions of an image object are among the captions of the images. -/
theorem mem_imageCaptions {images : Json} (listed : image ∈ itemsOf images)
    (object : isObject image = true) (held : text ∈ stringCaptions image)
    (read : imageCaptions library images = .ok texts) : text ∈ texts := by
  -- The image is an object, so the parser does not skip it.
  obtain ⟨captions, own, within⟩ := captionsOf_subset listed object read
  exact within (mem_captionsOf held own)

end Captions

section Contents

/-- The texts of an item are among those of its list. -/
theorem contentTextsAll_subset {items : List Json} {item : Json} (member : item ∈ items)
    (read : contentTextsAll library items = .ok texts) :
    ∃ inner, contentTexts library item = .ok inner ∧ inner ⊆ texts := by
  -- The texts of the first item come first, those of the others behind them.
  induction items generalizing texts with
  | nil => cases member
  | cons head rest ih =>
    rw [contentTextsAll] at read
    obtain ⟨front, first, read⟩ := bind_eq_ok.mp read
    obtain ⟨back, later, same⟩ := bind_eq_ok.mp read
    obtain rfl := pure_eq_ok.mp same
    rcases List.mem_cons.mp member with rfl | inside
    · exact ⟨front, first, List.subset_append_left _ _⟩
    · obtain ⟨inner, own, within⟩ := ih inside later
      exact ⟨inner, own, List.Subset.trans within (List.subset_append_right _ _)⟩

/-- The texts of what a content reaches are among the texts of the content. -/
theorem contentTexts_subset (reached : Reaches content value)
    (read : contentTexts library content = .ok texts) :
    ∃ inner, contentTexts library value = .ok inner ∧ inner ⊆ texts := by
  -- Each list on the way passes on the texts of all its items.
  induction reached generalizing texts with
  | self content => exact ⟨texts, read, List.Subset.refl _⟩
  | item member _ ih =>
    rw [contentTexts] at read
    obtain ⟨middle, own, outer⟩ := contentTextsAll_subset member read
    obtain ⟨inner, deep, within⟩ := ih own
    exact ⟨inner, deep, List.Subset.trans within outer⟩

/-- A fragment that is not blank is a text of its content. -/
theorem mem_contentTexts_of_str {fragment : String} (reached : Reaches content (.str fragment))
    (visible : stripHtml library fragment ≠ "")
    (read : contentTexts library content = .ok texts) : stripHtml library fragment ∈ texts := by
  -- A text has no other text than its own.
  obtain ⟨inner, own, within⟩ := contentTexts_subset reached read
  rw [contentTexts] at own
  obtain rfl := Except.ok.inj own
  exact within (by simp [nonEmpty, visible])

/-- The text and the captions of a dict are texts of the content that reaches it. -/
theorem mem_contentTexts_of_obj {fields : List (String × Json)}
    (reached : Reaches content (.obj fields)) (read : contentTexts library content = .ok texts) :
    (∀ fragment, itemText (.obj fields) = some fragment → stripHtml library fragment ≠ "" →
      stripHtml library fragment ∈ texts) ∧
    ∀ image ∈ itemsOf (Json.get (.obj fields) "images"), isObject image = true →
      ∀ text ∈ stringCaptions image, text ∈ texts := by
  -- The text of the dict comes first, its captions behind it.
  obtain ⟨inner, own, within⟩ := contentTexts_subset reached read
  rw [contentTexts] at own
  obtain ⟨captions, listed, same⟩ := bind_eq_ok.mp own
  obtain rfl := pure_eq_ok.mp same
  constructor
  · intro fragment first visible
    exact within (by simp [first, nonEmpty, visible])
  · intro image member object text held
    exact within (List.mem_append_right _ (mem_imageCaptions member object held listed))

/-- Every text a block owes is one of its parts. -/
theorem mem_blockParts (shown : Shown library child text)
    (found : blockParts library child = .ok parts) : text ∈ parts := by
  -- The parts between title and tools hold the texts of the content and the captions.
  obtain ⟨title, _, found⟩ := bind_eq_ok.mp found
  obtain ⟨texts, contents, found⟩ := bind_eq_ok.mp found
  obtain ⟨captions, listed, found⟩ := bind_eq_ok.mp found
  obtain ⟨tools, _, same⟩ := bind_eq_ok.mp found
  obtain rfl := pure_eq_ok.mp same
  refine List.mem_append_left _ (List.mem_append_right _ (List.mem_append.mpr ?_))
  cases shown with
  | caption owned held =>
    cases owned with
    | own member object => exact Or.inr (mem_imageCaptions member object held listed)
    | nested reached member object =>
      exact Or.inl ((mem_contentTexts_of_obj reached contents).2 _ member object _ held)
  | fragment reached visible => exact Or.inl (mem_contentTexts_of_str reached visible contents)
  | item reached first visible =>
    exact Or.inl ((mem_contentTexts_of_obj reached contents).1 _ first visible)

end Contents

section Visible

/-- A text that is stripped and not empty. -/
def IsVisible (text : String) : Prop := strip text = text ∧ text ≠ ""

/-- A stripped text that is kept is visible. -/
theorem visible_of_nonEmpty {raw : String} (member : text ∈ (nonEmpty (strip raw)).toList) :
    IsVisible text := by
  -- What is stripped once is stripped for good.
  obtain ⟨rfl, present⟩ := nonEmpty_eq_some.mp (Option.mem_toList.mp member)
  exact ⟨strip_strip raw, present⟩

/-- A stripped value is the strip of a text. -/
theorem strippedText_eq_ok {value : Json} (read : strippedText library value = .ok text) :
    ∃ raw, text = strip raw := by
  obtain ⟨raw, _, rfl⟩ := map_eq_ok.mp read
  exact ⟨raw, rfl⟩

/-- The captions of images are visible. -/
theorem visible_of_imageCaptions {images : Json}
    (read : imageCaptions library images = .ok texts) : ∀ text ∈ texts, IsVisible text := by
  -- A caption is kept only when something is left of it after stripping.
  cases images with
  | arr items =>
    obtain ⟨all, mapped, same⟩ := bind_eq_ok.mp read
    obtain rfl := pure_eq_ok.mp same
    intro text member
    obtain ⟨captions, inside, held⟩ := List.mem_flatten.mp member
    obtain ⟨image, _, own⟩ := left_of_forall₂ (mapM_eq_ok.mp mapped) inside
    obtain ⟨raws, values, kept⟩ := bind_eq_ok.mp own
    obtain rfl := pure_eq_ok.mp kept
    obtain ⟨value, listed, found⟩ := List.mem_filterMap.mp held
    obtain ⟨key, _, stripped⟩ := left_of_forall₂ (mapM_eq_ok.mp values) listed
    obtain ⟨raw, rfl⟩ := strippedText_eq_ok stripped
    exact visible_of_nonEmpty (Option.mem_toList.mpr found)
  | _ =>
    cases read
    simp

mutual

/-- The texts of a content are visible. -/
theorem visible_of_contentTexts (content : Json) {texts : List String}
    (read : contentTexts library content = .ok texts) : ∀ text ∈ texts, IsVisible text := by
  match content with
  | .str fragment =>
    rw [contentTexts] at read
    obtain rfl := Except.ok.inj read
    exact fun text member => visible_of_nonEmpty member
  -- An object has a text of its own and the captions of its images.
  | .obj fields =>
    rw [contentTexts] at read
    obtain ⟨captions, listed, same⟩ := bind_eq_ok.mp read
    obtain rfl := pure_eq_ok.mp same
    intro text member
    rcases List.mem_append.mp member with own | caption
    · obtain ⟨fragment, _, kept⟩ := Option.bind_eq_some_iff.mp (Option.mem_toList.mp own)
      exact visible_of_nonEmpty (Option.mem_toList.mpr kept)
    · exact visible_of_imageCaptions listed text caption
  | .arr items =>
    rw [contentTexts] at read
    exact visible_of_contentTextsAll items read
  | .null | .bool _ | .int _ | .float _ =>
    rw [contentTexts] at read
    obtain rfl := Except.ok.inj read
    simp

/-- The texts of a list of contents are visible. -/
theorem visible_of_contentTextsAll (items : List Json) {texts : List String}
    (read : contentTextsAll library items = .ok texts) : ∀ text ∈ texts, IsVisible text := by
  match items with
  | [] =>
    rw [contentTextsAll] at read
    obtain rfl := Except.ok.inj read
    simp
  | item :: rest =>
    rw [contentTextsAll] at read
    obtain ⟨front, first, read⟩ := bind_eq_ok.mp read
    obtain ⟨back, later, same⟩ := bind_eq_ok.mp read
    obtain rfl := pure_eq_ok.mp same
    intro text member
    -- A text comes from the first item or from the rest.
    rcases List.mem_append.mp member with early | late
    · exact visible_of_contentTexts item first text early
    · exact visible_of_contentTextsAll rest later text late

end

/-- The text of a tool is stripped. -/
theorem strip_of_toolText {tool : Json} (read : toolText library tool = .ok text) :
    strip text = text := by
  -- Each way to read a tool ends by stripping what was read.
  cases tool with
  | str raw =>
    cases read
    exact strip_strip raw
  | obj fields =>
    obtain ⟨label, _, read⟩ := bind_eq_ok.mp read
    obtain ⟨value, _, same⟩ := bind_eq_ok.mp read
    obtain rfl := pure_eq_ok.mp same
    exact strip_strip _
  | _ =>
    cases read
    decide

/-- A prefix that starts with a solid character keeps a visible text stripped. -/
theorem strip_append_of_visible {front : String} {head : Char} {rest : List Char}
    (shape : front.toList = head :: rest) (solid : isSpace head = false)
    (visible : IsVisible text) :
    strip (front ++ text) = front ++ text := by
  -- The front begins and the text ends with a visible character.
  rw [strip_eq_self_iff, String.toList_append]
  constructor
  · simp [shape, solid]
  · have present : text.toList ≠ [] := fun empty => visible.2 (String.toList_eq_nil_iff.mp empty)
    rw [List.getLast?_append_of_ne_nil _ present]
    exact (strip_eq_self_iff.mp visible.1).2

/-- A tool list has a visible text, or none. -/
theorem visible_of_toolListText {toolList : Json} {line : String}
    (read : toolListText library toolList = .ok line) :
    ∀ text ∈ (nonEmpty line).toList, IsVisible text := by
  intro text member
  obtain ⟨rfl, present⟩ := nonEmpty_eq_some.mp (Option.mem_toList.mp member)
  unfold toolListText at read
  dsimp only at read
  split at read
  · obtain ⟨entries, mapped, same⟩ := bind_eq_ok.mp read
    replace same := pure_eq_ok.mp same
    split at same
    · exact absurd same.symm present
    · rename_i some
      -- The entries are stripped tools that are not empty, and the line starts with a letter.
      have each : ∀ entry ∈ entries.filterMap nonEmpty, IsVisible entry := by
        intro entry inside
        obtain ⟨tool, listed, kept⟩ := List.mem_filterMap.mp inside
        obtain ⟨rfl, filled⟩ := nonEmpty_eq_some.mp kept
        obtain ⟨item, _, own⟩ := left_of_forall₂ (mapM_eq_ok.mp mapped) listed
        exact ⟨strip_of_toolText own, filled⟩
      have joined : IsVisible ("; ".intercalate (entries.filterMap nonEmpty)) := by
        refine ⟨strip_join "; " (fun entry inside => (each entry inside).1)
          fun entry inside => (each entry inside).2, ?_⟩
        rw [ne_eq, join_eq_empty_iff fun entry inside => (each entry inside).2]
        exact some
      rw [← same]
      exact ⟨strip_append_of_visible rfl (by decide) joined, by simp⟩
  · exact absurd (pure_eq_ok.mp read).symm present

/-- The parts of a block are visible. -/
theorem visible_of_blockParts (found : blockParts library child = .ok parts) :
    ∀ part ∈ parts, IsVisible part := by
  -- Each of the four groups of parts drops what is blank.
  obtain ⟨title, titled, found⟩ := bind_eq_ok.mp found
  obtain ⟨texts, contents, found⟩ := bind_eq_ok.mp found
  obtain ⟨captions, listed, found⟩ := bind_eq_ok.mp found
  obtain ⟨tools, tooled, same⟩ := bind_eq_ok.mp found
  obtain rfl := pure_eq_ok.mp same
  obtain ⟨raw, rfl⟩ := strippedText_eq_ok titled
  intro part member
  rcases List.mem_append.mp member with front | tool
  · rcases List.mem_append.mp front with own | middle
    · exact visible_of_nonEmpty own
    · rcases List.mem_append.mp middle with text | caption
      · exact visible_of_contentTexts _ contents part text
      · exact visible_of_imageCaptions listed part caption
  · exact visible_of_toolListText tooled part tool

/-- The text of a block that is no tool list joins its distinct parts, which need no stripping. -/
theorem blockText_eq (untyped : ¬ IsToolList library child)
    (read : blockText library child = .ok text) :
    ∃ parts, blockParts library child = .ok parts ∧ text = "\n".intercalate parts.eraseDups := by
  obtain ⟨title, titled, read⟩ := bind_eq_ok.mp read
  obtain ⟨kind, typed, read⟩ := bind_eq_ok.mp read
  -- A block that is no tool list takes the second branch.
  have other : kind ≠ "toolList" := by
    rintro rfl
    exact untyped typed
  rw [if_neg other] at read
  obtain ⟨⟨middle, tools⟩, inner, same⟩ := bind_eq_ok.mp read
  obtain ⟨texts, contents, inner⟩ := bind_eq_ok.mp inner
  obtain ⟨captions, listed, inner⟩ := bind_eq_ok.mp inner
  obtain ⟨line, tooled, pair⟩ := bind_eq_ok.mp inner
  obtain ⟨rfl, rfl⟩ := Prod.mk.inj (pure_eq_ok.mp pair)
  obtain rfl := pure_eq_ok.mp same
  have found : blockParts library child =
      .ok ((nonEmpty title).toList ++ (texts ++ captions) ++ (nonEmpty line).toList) := by
    simp only [blockParts, titled, contents, listed, tooled, ok_bind]
    rfl
  -- Every part is stripped, so stripping the whole changes nothing.
  have visible := visible_of_blockParts found
  refine ⟨_, found, strip_join "\n" ?_ ?_⟩
  · exact fun part member => (visible part (List.mem_eraseDups.mp member)).1
  · exact fun part member => (visible part (List.mem_eraseDups.mp member)).2

end Visible

/-- Every text a block owes is a stretch of the lines of its text. -/
theorem lines_of_shown {shown : String} (untyped : ¬ IsToolList library child)
    (owed : Shown library child shown) (read : blockText library child = .ok text) :
    lines shown <:+: lines text := by
  -- Joining the distinct parts keeps the lines of each of them together.
  obtain ⟨parts, found, rfl⟩ := blockText_eq untyped read
  have member : shown ∈ parts.eraseDups := List.mem_eraseDups.mpr (mem_blockParts owed found)
  rw [lines_join (List.ne_nil_of_mem member)]
  exact List.infix_of_mem_flatten (List.mem_map_of_mem member)

/-- A block that owes some text is not blank. -/
theorem visible_of_shown {shown : String} (untyped : ¬ IsToolList library child)
    (owed : Shown library child shown) (read : blockText library child = .ok text) :
    strip text ≠ "" := by
  -- Nothing is stripped from parts that are stripped, so the text has the part.
  obtain ⟨parts, found, rfl⟩ := blockText_eq untyped read
  have visible := visible_of_blockParts found
  have each : ∀ part ∈ parts.eraseDups, IsVisible part := fun part member =>
    visible part (List.mem_eraseDups.mp member)
  have member : shown ∈ parts.eraseDups := List.mem_eraseDups.mpr (mem_blockParts owed found)
  rw [strip_join "\n" (fun part inside => (each part inside).1) fun part inside =>
    (each part inside).2, ne_eq, join_eq_empty_iff fun part inside => (each part inside).2]
  exact List.ne_nil_of_mem member

/-- Every text a block owes its reader stands in the lines of the chunk made of the block. -/
theorem shown_in_chunk {data : Json} {html raw : String} (printable : library.Printable)
    (extracted : extractManualDataJson html = .ok raw) (loaded : library.loads raw = .ok data)
    (object : isObject data = true) (shaped : ListShaped data) (baseUrl : String) :
    ∃ parsed, parsePublication library html baseUrl = .ok parsed ∧
      ∀ module ∈ itemsOf (data.get "modules"), isObject module = true →
        ∀ child ∈ itemsOf (module.get "children"), isObject child = true →
          ¬ IsToolList library child → ∀ shown, Shown library child shown →
            ∃ chunk ∈ parsed.chunks,
              (Origin.block module child).Yields library data baseUrl chunk ∧
                lines shown <:+: lines chunk.text := by
  obtain ⟨parsed, read⟩ := parsePublication_ok printable extracted loaded object shaped baseUrl
  refine ⟨parsed, read, ?_⟩
  intro module isListed isModule child isChild isBlock untyped shown owed
  obtain ⟨text, written⟩ := blockText_ok printable child
  have present := visible_of_shown untyped owed written
  -- The block is a visible part of the page, so one of the chunks is made of it.
  have part : Origin.block module child ∈
      (origins data).filter (Origin.isVisible library data) := by
    refine List.mem_filter.mpr ⟨List.mem_cons_of_mem _ (List.mem_flatMap.mpr ⟨module, ?_, ?_⟩), ?_⟩
    · exact List.mem_filter.mpr ⟨isListed, isModule⟩
    · refine List.mem_cons_of_mem _ (List.mem_cons_of_mem _ (List.mem_map_of_mem ?_))
      exact List.mem_filter.mpr ⟨isChild, isBlock⟩
    · simp [Origin.isVisible, Origin.text, written, present]
  obtain ⟨chunk, member, yields⟩ :=
    right_of_forall₂ (wellLinked_of_parsePublication extracted loaded read).parts part
  refine ⟨chunk, member, yields, ?_⟩
  obtain ⟨other, alsoWritten, stripped⟩ := yields.text
  obtain rfl := Except.ok.inj (alsoWritten.symm.trans written)
  obtain ⟨parts, found, joined⟩ := blockText_eq untyped written
  have visible := visible_of_blockParts found
  -- The block text has no white space at its ends.
  have same : strip other = other := by
    rw [joined]
    refine strip_join "\n" ?_ ?_
    · exact fun part member => (visible part (List.mem_eraseDups.mp member)).1
    · exact fun part member => (visible part (List.mem_eraseDups.mp member)).2
  rw [stripped, same]
  exact lines_of_shown untyped owed written

/-- The caption of the page with one block stands in a chunk, two lists deep. -/
theorem shown_in_chunk_crank :
    ∃ parsed, parsePublication (manualLibrary crankRaw crankData)
        ("<script id=\"manual-data\">" ++ crankRaw ++ "</script>") "https://docs.sram.com/crank" =
          .ok parsed ∧
      ∀ module ∈ itemsOf (crankData.get "modules"), isObject module = true →
        ∀ child ∈ itemsOf (module.get "children"), isObject child = true →
          ¬ IsToolList (manualLibrary crankRaw crankData) child →
            ∀ shown, Shown (manualLibrary crankRaw crankData) child shown →
              ∃ chunk ∈ parsed.chunks,
                (Origin.block module child).Yields (manualLibrary crankRaw crankData) crankData
                  "https://docs.sram.com/crank" chunk ∧ lines shown <:+: lines chunk.text :=
  shown_in_chunk (manualLibrary_printable _ _) (show _ = Except.ok crankRaw by decide +kernel) rfl
    rfl crankData_listShaped _

/-- The block of that page owes its caption. -/
example : Shown (manualLibrary crankRaw crankData) crankBlock "8 mm" :=
  .caption (.nested (.item List.mem_cons_self (.item List.mem_cons_self (.self _)))
    List.mem_cons_self rfl) (by decide +kernel)

section Together

/-- The captions stand next to each other among the lines of the text, in their order. -/
def StandTogether (captions : List String) (text : String) : Prop :=
  captions.flatMap lines <:+: lines text

/-- Among parts of one line each, the captions follow each other with nothing new in between. -/
def FollowDirectly (parts captions : List String) : Prop :=
  captions.IsChain (NextNew parts)

/-- The lines are the last ones of a part, all of the next parts, and the first of one more. -/
def RunAcross (parts : List String) (wanted : List (List Char)) : Prop :=
  -- The lines begin inside one part and end inside a later one.
  ∃ first whole last ending beginning, first :: whole ++ [last] ⊆ parts ∧
    FollowDirectly parts (first :: whole ++ [last]) ∧ ending <:+ lines first ∧
      beginning <+: lines last ∧ wanted = ending ++ whole.flatMap lines ++ beginning

/--
The captions follow each other directly among the parts of the block.

Where a part itself runs over several lines, the lines of the captions have to be among those of
one part, or run across parts that follow each other directly.
-/
def KeptTogether (parts captions : List String) : Prop :=
  -- A part of one line is a line itself, and others may hold several.
  if ∀ part ∈ parts, '\n' ∉ part.toList then FollowDirectly parts captions
  else (∃ part ∈ parts, captions.flatMap lines <:+: lines part) ∨
    RunAcross parts (captions.flatMap lines)

/-- The start of a list of stretches is empty, or ends within one of them. -/
theorem prefix_flatMap_cases {α β : Type*} {image : α → List β} {start : List β} {list : List α}
    (held : start <+: list.flatMap image) :
    start = [] ∨ ∃ whole last behind beginning, list = whole ++ last :: behind ∧
      beginning <+: image last ∧ start = whole.flatMap image ++ beginning := by
  induction list generalizing start with
  | nil => exact .inl (List.prefix_nil.mp held)
  | cons head tail ih =>
    obtain ⟨rest, split⟩ := held
    rw [List.flatMap_cons] at split
    rcases List.append_eq_append_iff.mp split with ⟨more, inside, -⟩ | ⟨more, rfl, further⟩
    · exact .inr ⟨[], head, tail, start, rfl, ⟨more, inside.symm⟩, rfl⟩
    · -- What goes past the first stretch starts the others.
      rcases ih ⟨rest, further.symm⟩ with
        rfl | ⟨whole, last, behind, beginning, rfl, begins, rfl⟩
      · exact .inr ⟨[], head, tail, image head, rfl, List.prefix_rfl, by simp⟩
      · exact .inr ⟨head :: whole, last, behind, beginning, rfl, begins, by simp⟩

/-- A part of a list of stretches lies within one of them, or runs from one to another. -/
theorem infix_flatMap_cases {α β : Type*} {image : α → List β} {part : List β} {list : List α}
    (some : list ≠ []) (held : part <:+: list.flatMap image) :
    (∃ element ∈ list, part <:+: image element) ∨
      ∃ ahead first whole last behind ending beginning,
        list = ahead ++ first :: (whole ++ last :: behind) ∧ ending <:+ image first ∧
          beginning <+: image last ∧ part = ending ++ whole.flatMap image ++ beginning := by
  induction list with
  | nil => exact absurd rfl some
  | cons head tail ih =>
    rw [List.flatMap_cons, List.infix_append_iff] at held
    rcases held with within | later | ⟨ending, start, rfl, ends, starts⟩
    · exact .inl ⟨head, List.mem_cons_self, within⟩
    · rcases List.eq_nil_or_concat' tail with rfl | ⟨front, final, shape⟩
      · obtain rfl := List.infix_nil.mp later
        exact .inl ⟨head, List.mem_cons_self, List.nil_infix⟩
      · rcases ih (by simp [shape]) later with
          ⟨element, member, within⟩ | ⟨ahead, first, whole, last, behind, ending, beginning, rest⟩
        · exact .inl ⟨element, List.mem_cons_of_mem head member, within⟩
        · obtain ⟨rfl, run⟩ := rest
          exact .inr ⟨head :: ahead, first, whole, last, behind, ending, beginning, rfl, run⟩
    · -- The part begins in the first stretch and ends in a later one, or where it ends.
      rcases prefix_flatMap_cases starts with
        rfl | ⟨whole, last, behind, beginning, rfl, begins, rfl⟩
      · exact .inl ⟨head, List.mem_cons_self, by simpa using ends.isInfix⟩
      · exact .inr ⟨[], head, whole, last, behind, ending, beginning, rfl, ends, begins, by simp⟩

/-- Texts of one line each are a stretch of texts of one line each when their lines are. -/
theorem infix_lines_iff {captions texts : List String}
    (single : ∀ text ∈ texts, '\n' ∉ text.toList) (among : captions ⊆ texts) :
    captions.flatMap lines <:+: texts.flatMap lines ↔ captions <:+: texts := by
  have bare : ∀ list : List String, list ⊆ texts → list.flatMap lines = list.map String.toList := by
    intro list within
    induction list with
    | nil => rfl
    | cons head tail ih =>
      obtain ⟨inside, rest⟩ := List.cons_subset.mp within
      rw [List.flatMap_cons, List.map_cons, ih rest, lines_of_single (single head inside)]
      rfl
  rw [bare captions among, bare texts (List.Subset.refl _)]
  constructor
  · intro stretched
    -- Reading the characters back as texts undoes the map.
    have back := stretched.map String.ofList
    simpa [List.map_map, Function.comp_def] using back
  · exact fun stretched => stretched.map String.toList

/-- Parts follow each other directly when they are a stretch of the distinct parts. -/
theorem followDirectly_iff {run : List String} (among : run ⊆ parts) :
    FollowDirectly parts run ↔ run <:+: parts.eraseDups := by
  -- Distinct parts are neighbours when the second is the next new one.
  rw [infix_iff_isChain (eraseDups_nodup parts) fun part member =>
    List.mem_eraseDups.mpr (among member), FollowDirectly]
  simp only [infix_eraseDups_iff]

/-- The captions of an image are parts of its block. -/
theorem stringCaptions_subset (owned : IsImageOf child image)
    (found : blockParts library child = .ok parts) : stringCaptions image ⊆ parts :=
  fun _ held => mem_blockParts (.caption owned held) found

/--
The captions of an image stand together in the text of its block exactly when they follow each
other directly among the parts of the block.
-/
theorem standTogether_iff (untyped : ¬ IsToolList library child) (owned : IsImageOf child image)
    (found : blockParts library child = .ok parts) (read : blockText library child = .ok text) :
    StandTogether (stringCaptions image) text ↔ KeptTogether parts (stringCaptions image) := by
  obtain ⟨others, alsoFound, rfl⟩ := blockText_eq untyped read
  obtain rfl := Except.ok.inj (alsoFound.symm.trans found)
  have among : stringCaptions image ⊆ others.eraseDups := fun caption held =>
    List.mem_eraseDups.mpr (stringCaptions_subset owned found held)
  unfold StandTogether KeptTogether
  rcases List.eq_nil_or_concat' others with rfl | ⟨front, last, shape⟩
  · -- A block without parts has no captions to keep together.
    have none : stringCaptions image = [] := List.subset_nil.mp (by simpa using among)
    simp [none, FollowDirectly]
  · have some : others.eraseDups ≠ [] :=
      List.ne_nil_of_mem (List.mem_eraseDups.mpr (show last ∈ others by simp [shape]))
    rw [lines_join some]
    split
    · -- With parts of one line, the lines are the parts themselves.
      rename_i single
      rw [infix_lines_iff (fun part member => single part (List.mem_eraseDups.mp member)) among,
        followDirectly_iff (stringCaptions_subset owned found)]
    · constructor
      · -- The lines are those of distinct parts next to each other, less some at either end.
        intro within
        rcases infix_flatMap_cases some within with
          ⟨part, member, inside⟩ | ⟨ahead, first, whole, last, behind, ending, beginning, rest⟩
        · exact .inl ⟨part, List.mem_eraseDups.mp member, inside⟩
        · obtain ⟨split, ends, begins, made⟩ := rest
          have run : first :: whole ++ [last] <:+: others.eraseDups :=
            ⟨ahead, behind, by simp [split]⟩
          have listed : first :: whole ++ [last] ⊆ others := fun part member =>
            List.mem_eraseDups.mp (run.subset member)
          exact .inr ⟨first, whole, last, ending, beginning, listed,
            (followDirectly_iff listed).mpr run, ends, begins, made⟩
      · intro held
        rcases held with ⟨part, member, inside⟩ |
          ⟨first, whole, last, ending, beginning, listed, follows, ends, begins, made⟩
        · exact inside.trans (List.infix_of_mem_flatten
            (List.mem_map_of_mem (List.mem_eraseDups.mpr member)))
        · -- The lines of the run are cut out of those of the whole.
          obtain ⟨ahead, behind, split⟩ := (followDirectly_iff listed).mp follows
          obtain ⟨front, ends⟩ := ends
          obtain ⟨back, begins⟩ := begins
          refine ⟨ahead.flatMap lines ++ front, back ++ behind.flatMap lines, ?_⟩
          rw [made, ← split]
          simp only [List.flatMap_append, List.flatMap_cons, List.flatMap_nil, List.append_nil,
            ← ends, ← begins, List.append_assoc]

/-- An image that shows a tool size and a torque. -/
def boltImage (size torque : String) : Json :=
  .obj [("caption1", .str size), ("caption2", .str torque)]

/-- A block whose two images share a torque. -/
def sharedTorqueBlock : Json :=
  .obj [("images", .arr [boltImage "5 mm" "10 N·m", boltImage "6 mm" "10 N·m"])]

/-- A library whose texts are those of the language. -/
def plainLibrary : PageLibrary := manualLibrary "" .null

/-- The parts of that block. -/
theorem blockParts_sharedTorque :
    blockParts plainLibrary sharedTorqueBlock = .ok ["5 mm", "10 N·m", "6 mm", "10 N·m"] := by
  decide +kernel

/-- The text of that block, from which the second torque was dropped. -/
theorem blockText_sharedTorque :
    blockText plainLibrary sharedTorqueBlock = .ok "5 mm\n10 N·m\n6 mm" := by
  decide +kernel

/-- That block has no type. -/
theorem sharedTorqueBlock_untyped : ¬ IsToolList plainLibrary sharedTorqueBlock := by
  unfold IsToolList
  decide +kernel

/-- The second image is one of the block. -/
theorem sharedTorqueBlock_image : IsImageOf sharedTorqueBlock (boltImage "6 mm" "10 N·m") :=
  .own (List.mem_cons_of_mem (boltImage "5 mm" "10 N·m") List.mem_cons_self) rfl

/-- The equivalence for the second image of that block. -/
theorem standTogether_iff_shared :
    StandTogether (stringCaptions (boltImage "6 mm" "10 N·m")) "5 mm\n10 N·m\n6 mm" ↔
      KeptTogether ["5 mm", "10 N·m", "6 mm", "10 N·m"]
        (stringCaptions (boltImage "6 mm" "10 N·m")) :=
  -- The torque value of the first image also stands in the second one.
  standTogether_iff sharedTorqueBlock_untyped sharedTorqueBlock_image blockParts_sharedTorque
    blockText_sharedTorque

/-- A torque that another image of the block has already shown is missing behind its tool size. -/
theorem not_standTogether :
    ¬ ∀ (library : PageLibrary) (child image : Json) (text : String), isObject child = true →
      ¬ IsToolList library child → IsImageOf child image → blockText library child = .ok text →
        StandTogether (stringCaptions image) text := by
  -- The repeated torque value is dropped where the second image would show it.
  intro always
  have together := always plainLibrary sharedTorqueBlock (boltImage "6 mm" "10 N·m") _ rfl
    sharedTorqueBlock_untyped sharedTorqueBlock_image blockText_sharedTorque
  unfold StandTogether at together
  exact absurd together (by decide +kernel)

end Together

end TorqueFinder
