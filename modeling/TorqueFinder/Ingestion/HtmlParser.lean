import TorqueFinder.Discovery.PublicationProbe
import TorqueFinder.Lib.ExceptFlow

/-! The parser of publication pages: a title and one chunk per block, in page order. -/

namespace TorqueFinder

open PyText PyJson ExceptFlow

/-- One block-level chunk of a publication page. -/
structure HtmlChunk where
  /-- The one-based place of the chunk in the publication. -/
  ordinal : Nat
  text : String
  anchor : Option String
  parentAnchor : Option String
  sourceUrl : String
  ordinal_positive : 0 < ordinal
  text_nonempty : text ≠ ""
  deriving DecidableEq

/-- A parsed publication page. -/
structure ParsedPublication where
  title : String
  chunks : List HtmlChunk
  deriving DecidableEq

/-- Replace what `<[^>]+>` matches by a blank, given the text of a bracket that may open a match. -/
def blankTagsFrom : Option (List Char) → List Char → List Char
  | none, [] => []
  -- A bracket that is never closed opens nothing, and neither does one after it.
  | some opened, [] => '<' :: opened.reverse
  | none, char :: rest =>
    if char = '<' then blankTagsFrom (some []) rest else char :: blankTagsFrom none rest
  | some opened, char :: rest =>
    if char = '>' then
      -- An empty pair of brackets is no match.
      if opened.isEmpty then '<' :: '>' :: blankTagsFrom none rest
      else ' ' :: blankTagsFrom none rest
    else blankTagsFrom (some (char :: opened)) rest

/-- `_TAG_RE.sub(" ", text)`. -/
def blankTags (text : String) : String := String.ofList (blankTagsFrom none text.toList)

/-- Replace every run of white space by one blank, given whether a run is being read. -/
def collapseFrom : Bool → List Char → List Char
  | _, [] => []
  | inside, char :: rest =>
    if isSpace char then
      -- The first white space of a run stands for the whole run.
      if inside then collapseFrom true rest else ' ' :: collapseFrom true rest
    else char :: collapseFrom false rest

/-- `_WS_RE.sub(" ", text)`. -/
def collapseSpaces (text : String) : String := String.ofList (collapseFrom false text.toList)

/-- An HTML fragment as plain text: tags dropped, entities unescaped, white space collapsed. -/
def stripHtml (library : PageLibrary) (fragment : String) : String :=
  strip (collapseSpaces (library.unescape (blankTags fragment)))

/-- A text, unless it is empty. -/
def nonEmpty (text : String) : Option String := if text = "" then none else some text

/-- `str(value or "").strip()`. -/
def strippedText (library : PageLibrary) (value : Json) : Except PyException String :=
  strip <$> library.str (value.or (.str ""))

/-- The anchor of a module or a block. -/
def hashOf (library : PageLibrary) (node : Json) : Except PyException (Option String) := do
  -- The leading number signs are no part of the anchor.
  let value ← strippedText library (node.get "hash")
  return nonEmpty (lstripChar '#' value)

/-- The address of a section. -/
def deepLink (baseUrl : String) : Option String → String
  -- An empty anchor would link to the top, so it is left out.
  | some anchor => if anchor = "" then baseUrl else baseUrl ++ "#" ++ anchor
  | none => baseUrl

/-- Whether a value is an object. -/
def isObject : Json → Bool
  -- The parser skips items that are no dictionaries.
  | .obj _ => true
  | _ => false

/-- The items of a list. -/
def itemsOf : Json → List Json
  -- The items of anything else are no dictionaries and are skipped.
  | .arr items => items
  | _ => []

/-- The captions of one image. -/
def captionsOf (library : PageLibrary) (image : Json) : Except PyException (List String) := do
  -- The captions stand in the order of their numbers.
  let captions ← ["caption1", "caption2", "caption3"].mapM fun key =>
    strippedText library (image.get key)
  return captions.filterMap nonEmpty

/-- The captions of all images, where anything that is no object is skipped. -/
def imageCaptions (library : PageLibrary) : Json → Except PyException (List String)
  | .arr images => do
    let captions ← (images.filter isObject).mapM (captionsOf library)
    return captions.flatten
  -- Images that are no list are ignored.
  | _ => .ok []

/-- The first text among the fields that may carry the content of an item. -/
def itemText (item : Json) : Option String :=
  -- The fields are tried in this order, and one that holds no text is passed over.
  ["content", "html", "text", "value"].findSome? fun key =>
    match item.get key with
    | .str text => some text
    | _ => none

mutual

/-- The text fragments of the content of a block. -/
def contentTexts (library : PageLibrary) : Json → Except PyException (List String)
  | .str fragment => .ok (nonEmpty (stripHtml library fragment)).toList
  | .obj fields => do
    let text := (itemText (.obj fields)).bind fun text => nonEmpty (stripHtml library text)
    -- Captions follow the text of the item they belong to.
    let captions ← imageCaptions library (Json.get (.obj fields) "images")
    return text.toList ++ captions
  | .arr items => contentTextsAll library items
  | .null | .bool _ | .int _ | .float _ => .ok []

/-- The text fragments of a list of contents, one after the other. -/
def contentTextsAll (library : PageLibrary) : List Json → Except PyException (List String)
  -- The texts follow the order of the items.
  | [] => .ok []
  | item :: rest => do
    let front ← contentTexts library item
    let back ← contentTextsAll library rest
    return front ++ back

end

/-- The values of a tool as one text. -/
def toolValue (library : PageLibrary) (item : Json) : Except PyException String := do
  -- A description is preferred to a value, and several values are listed.
  match ((item.get "description").or (item.get "value")).or (.str "") with
  | .arr values => do
    let texts ← values.mapM library.str
    return strip (", ".intercalate texts)
  | value => strip <$> library.str value

/-- One tool as a text, empty when there is none. -/
def toolText (library : PageLibrary) : Json → Except PyException String
  | .str text => .ok (strip text)
  | .obj fields => do
    let label ← strippedText library ((Json.get (.obj fields) "label").or
      (Json.get (.obj fields) "title"))
    let value ← toolValue library (.obj fields)
    -- A missing label or value leaves no colon behind.
    return strip (stripBy (fun char => char = ':' || char = ' ') (label ++ ": " ++ value))
  | _ => .ok ""

/-- A tool list as one searchable line, empty when it names no tool. -/
def toolListText (library : PageLibrary) (toolList : Json) : Except PyException String := do
  -- An object carries its tools in its content.
  let items := match toolList with
    | .obj _ => toolList.get "content"
    | other => other
  match items with
  | .arr items => do
    let entries := (← items.mapM (toolText library)).filterMap nonEmpty
    return if entries = [] then "" else "Tools: " ++ "; ".intercalate entries
  | _ => return ""

/-- The text of a block: its title, paragraphs, captions and tools, each line once. -/
def blockText (library : PageLibrary) (child : Json) : Except PyException String := do
  let title ← strippedText library (child.get "title")
  let kind ← library.str ((child.get "type").or (.str ""))
  let (parts, toolText) ←
    (if kind = "toolList" then do
      -- The tools of a typed child are its content, which holds no paragraphs.
      return ([], ← toolListText library child)
    else do
      let texts ← contentTexts library (child.get "content")
      let captions ← imageCaptions library (child.get "images")
      return (texts ++ captions, ← toolListText library (child.get "toolList")))
  -- A line that occurred before is dropped.
  let lines := (nonEmpty title).toList ++ parts ++ (nonEmpty toolText).toList
  return strip ("\n".intercalate lines.eraseDups)

/-- A text that may become a chunk, with its anchor and that of its module. -/
structure Block where
  text : String
  anchor : Option String
  parentAnchor : Option String
  deriving DecidableEq

/-- The chunks of the blocks that are not blank, numbered on from a number. -/
def numberBlocks (baseUrl : String) : Nat → List Block → List HtmlChunk
  | _, [] => []
  | last, block :: rest =>
    let text := strip block.text
    -- A blank block takes no number.
    if blank : text = "" then numberBlocks baseUrl last rest
    else
      { ordinal := last + 1, text, anchor := block.anchor, parentAnchor := block.parentAnchor
        sourceUrl := deepLink baseUrl ((block.anchor.bind nonEmpty).or block.parentAnchor)
        ordinal_positive := last.succ_pos
        text_nonempty := blank } ::
        numberBlocks baseUrl (last + 1) rest

/-- The block of one child of a module. -/
def childBlock (library : PageLibrary) (moduleHash : Option String) (child : Json) :
    Except PyException Block := do
  -- A block belongs to the module around it.
  let text ← blockText library child
  let anchor ← hashOf library child
  return { text, anchor, parentAnchor := moduleHash }

/-- The blocks of one module: its title, its tools, and its children. -/
def moduleBlocks (library : PageLibrary) (module : Json) : Except PyException (List Block) := do
  let moduleHash ← hashOf library module
  let title ← strippedText library (module.get "title")
  let tools ← toolListText library (module.get "toolList")
  let children ← iterate ((module.get "children").or (.arr []))
  let blocks ← (children.filter isObject).mapM (childBlock library moduleHash)
  -- The title is anchored at its module, the tools are only filed under it.
  return ⟨title, moduleHash, moduleHash⟩ :: ⟨tools, none, moduleHash⟩ :: blocks

/-- The blocks of a publication: its tools, then its modules in order. -/
def publicationBlocks (library : PageLibrary) (data : Json) : Except PyException (List Block) := do
  let tools ← toolListText library (data.get "toolList")
  let modules ← iterate ((data.get "modules").or (.arr []))
  let blocks ← (modules.filter isObject).mapM (moduleBlocks library)
  -- The tools of the whole publication come first.
  return ⟨tools, none, none⟩ :: blocks.flatten

/-- The title and the chunks of loaded data. -/
def publicationOfJson (library : PageLibrary) (data : Json) (baseUrl : String) :
    Except PyException ParsedPublication := do
  -- The blocks are numbered together, across all modules.
  let title ← strippedText library (← data.field "title")
  let blocks ← publicationBlocks library data
  return { title, chunks := numberBlocks baseUrl 0 blocks }

/-- How an ingestion step fails. -/
inductive IngestionFailure where
  /-- The domain error the command line knows. -/
  | ingestion (error : IngestionError)
  /-- An exception of the database driver. -/
  | database
  /-- Any other exception. -/
  | uncaught (exception : PyException)
  deriving DecidableEq

/-- A failed ingestion, with its message. -/
def ingestionError {α : Type*} (message : String) : Except IngestionFailure α :=
  .error (.ingestion ⟨message⟩)

/-- Parse one publication page. -/
def parsePublication (library : PageLibrary) (html baseUrl : String) :
    Except IngestionFailure ParsedPublication :=
  match extractManualDataJson html with
  | .error error => ingestionError error.message
  | .ok raw =>
    match library.loads raw with
    | .ok data => (publicationOfJson library data baseUrl).mapError .uncaught
    -- Other exceptions of the JSON reader are not caught.
    | .error .jsonDecodeError => ingestionError "manual-data JSON is invalid"
    | .error exception => .error (.uncaught exception)

/-- The objects that are visited are those among the items of a list. -/
theorem objects_of_iterate {value : Json} {items : List Json}
    (visited : iterate (value.or (.arr [])) = .ok items) :
    items.filter isObject = (itemsOf value).filter isObject := by
  -- The characters of a text and the keys of an object are no objects.
  have texts : ∀ names : List Json, (∀ name ∈ names, ∃ text, name = .str text) →
      names.filter isObject = [] := by
    intro names all
    refine List.filter_eq_nil_iff.mpr fun name member => ?_
    obtain ⟨text, rfl⟩ := all name member
    simp [isObject]
  -- A truthy value is visited as it is.
  unfold Json.or at visited
  split at visited
  · cases value with
    | arr listed =>
      cases visited
      rfl
    | str text =>
      cases visited
      exact texts _ fun name member => by
        obtain ⟨char, _, rfl⟩ := List.mem_map.mp member
        exact ⟨_, rfl⟩
    | obj fields =>
      cases visited
      exact texts _ fun name member => by
        obtain ⟨key, _, rfl⟩ := List.mem_map.mp member
        exact ⟨_, rfl⟩
    | _ => cases visited
  · rename_i falsy
    cases visited
    -- A falsy value has no items.
    cases value with
    | arr listed =>
      obtain rfl : listed = [] := by simpa [Json.truthy] using falsy
      rfl
    | _ => rfl

/-- The texts of the chunks are those of the blocks that are not blank. -/
theorem texts_of_numberBlocks (baseUrl : String) (last : Nat) (blocks : List Block) :
    (numberBlocks baseUrl last blocks).map HtmlChunk.text =
      (blocks.map fun block => strip block.text).filter fun text => text ≠ "" := by
  -- The numbering skips blank blocks and keeps every other text.
  induction blocks generalizing last with
  | nil => rfl
  | cons block rest ih =>
    by_cases blank : strip block.text = ""
    · simp [numberBlocks, blank, ih]
    · simp [numberBlocks, blank, ih]

/-- The chunks are numbered in their order, without a gap. -/
theorem ordinals_of_numberBlocks (baseUrl : String) (last : Nat) (blocks : List Block) :
    (numberBlocks baseUrl last blocks).map HtmlChunk.ordinal =
      List.range' (last + 1) (numberBlocks baseUrl last blocks).length := by
  -- A chunk takes the next number, and a blank block takes none.
  induction blocks generalizing last with
  | nil => rfl
  | cons block rest ih =>
    by_cases blank : strip block.text = ""
    · simp [numberBlocks, blank, ih]
    · simp [numberBlocks, blank, ih, List.range'_succ]

/-- A parsed page has the chunks of the blocks in its data. -/
theorem chunks_of_parsePublication {library : PageLibrary} {html baseUrl : String}
    {parsed : ParsedPublication} (read : parsePublication library html baseUrl = .ok parsed) :
    ∃ raw data blocks, extractManualDataJson html = .ok raw ∧ library.loads raw = .ok data ∧
      publicationBlocks library data = .ok blocks ∧
        parsed.chunks = numberBlocks baseUrl 0 blocks := by
  -- Each failing step is an error, so all of them succeeded.
  unfold parsePublication at read
  split at read
  · cases read
  rename_i raw extracted
  split at read
  · rename_i data loaded
    obtain ⟨_, _, read⟩ := bind_eq_ok.mp (mapError_eq_ok.mp read)
    obtain ⟨title, _, read⟩ := bind_eq_ok.mp read
    obtain ⟨blocks, divided, same⟩ := bind_eq_ok.mp read
    obtain rfl := pure_eq_ok.mp same
    exact ⟨raw, data, blocks, extracted, loaded, divided, rfl⟩
  · cases read
  · cases read

/-- No two chunks of a parsed page have the same ordinal. -/
theorem ordinals_nodup_of_parsePublication {library : PageLibrary} {html baseUrl : String}
    {parsed : ParsedPublication} (read : parsePublication library html baseUrl = .ok parsed) :
    (parsed.chunks.map HtmlChunk.ordinal).Nodup := by
  obtain ⟨_, _, blocks, _, _, _, chunks⟩ := chunks_of_parsePublication read
  -- The numbers count up from one.
  rw [chunks, ordinals_of_numberBlocks]
  exact List.nodup_range'

end TorqueFinder
