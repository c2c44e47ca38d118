import TorqueFinder.Ingestion.MalformedPages
import TorqueFinder.Lib.PyTextLaws

/-! The chunks of a page against the parts of its data: none is missing, misplaced or mislinked. -/

namespace TorqueFinder

open PyText PyJson ExceptFlow

/-- A part of a publication that may become a chunk. -/
inductive Origin where
  /-- The tool list of the whole publication. -/
  | publicationTools
  /-- The title of a module. -/
  | moduleTitle (module : Json)
  /-- The tool list of a module. -/
  | moduleTools (module : Json)
  /-- A child of a module. -/
  | block (module child : Json)

namespace Origin

/-- The text of a part. -/
def text (library : PageLibrary) (data : Json) : Origin → Except PyException String
  -- Each origin reads its text from its own part of the data.
  | publicationTools => toolListText library (data.get "toolList")
  | moduleTitle module => strippedText library (module.get "title")
  | moduleTools module => toolListText library (module.get "toolList")
  | block _ child => blockText library child

/-- The section a part is linked to by itself: a title to its module, a child to its own hash. -/
def anchor (library : PageLibrary) : Origin → Except PyException (Option String)
  | moduleTitle module => hashOf library module
  | block _ child => hashOf library child
  -- Tools have no place of their own on the page.
  | publicationTools | moduleTools _ => .ok none

/-- The module a part is filed under. -/
def parentAnchor (library : PageLibrary) : Origin → Except PyException (Option String)
  -- The tools of the publication belong to no module.
  | publicationTools => .ok none
  | moduleTitle module | moduleTools module | block module _ => hashOf library module

/-- Whether a part has a text that is not blank. -/
def isVisible (library : PageLibrary) (data : Json) (origin : Origin) : Bool :=
  -- A text that cannot be read is not shown.
  match origin.text library data with
  | .ok text => strip text ≠ ""
  | .error _ => false

/-- A block carries the text and the anchors of a part. -/
structure Resolves (library : PageLibrary) (data : Json) (origin : Origin) (block : Block) :
    Prop where
  text : origin.text library data = .ok block.text
  anchor : origin.anchor library = .ok block.anchor
  parentAnchor : origin.parentAnchor library = .ok block.parentAnchor

/-- A chunk carries the stripped text and the anchors of a part, and the address they give. -/
structure Yields (library : PageLibrary) (data : Json) (baseUrl : String) (origin : Origin)
    (chunk : HtmlChunk) : Prop where
  text : ∃ text, origin.text library data = .ok text ∧ chunk.text = strip text
  anchor : origin.anchor library = .ok chunk.anchor
  parentAnchor : origin.parentAnchor library = .ok chunk.parentAnchor
  -- The anchor is more precise than that of the module.
  sourceUrl : chunk.sourceUrl = match chunk.anchor.or chunk.parentAnchor with
    | some anchor => baseUrl ++ "#" ++ anchor
    | none => baseUrl

end Origin

/-- The parts of a module: its title, its tools and its children. -/
def moduleOrigins (module : Json) : List Origin :=
  -- The title of a module stands before its tools and its blocks.
  .moduleTitle module :: .moduleTools module ::
    ((itemsOf (module.get "children")).filter isObject).map (.block module)

/-- The parts of a publication in page order. -/
def origins (data : Json) : List Origin :=
  .publicationTools :: ((itemsOf (data.get "modules")).filter isObject).flatMap moduleOrigins

/-- A value is a list or is missing. -/
def ListOrAbsent (value : Json) : Prop := value = .null ∨ ∃ items, value = .arr items

/-- The modules, and the children of each module that is an object, are lists or missing. -/
def ListShaped (data : Json) : Prop :=
  -- The shape of the data that the site embeds in its pages.
  ListOrAbsent (data.get "modules") ∧
    ∀ module ∈ itemsOf (data.get "modules"), isObject module = true →
      ListOrAbsent (module.get "children")

/-- The chunks are those of the visible parts in page order, numbered, stripped and linked. -/
structure WellLinked (library : PageLibrary) (data : Json) (baseUrl : String)
    (chunks : List HtmlChunk) : Prop where
  parts : List.Forall₂ (Origin.Yields library data baseUrl)
    ((origins data).filter (Origin.isVisible library data)) chunks
  ordinals : chunks.map HtmlChunk.ordinal = List.range' 1 chunks.length
  texts : ∀ chunk ∈ chunks, chunk.text ≠ "" ∧ strip chunk.text = chunk.text
  links : ∀ chunk ∈ chunks,
    chunk.sourceUrl = baseUrl ↔ chunk.anchor = none ∧ chunk.parentAnchor = none

variable {library : PageLibrary} {data module : Json} {blocks : List Block} {baseUrl : String}

section Blocks

/-- The blocks of a module are those of its parts. -/
theorem moduleOrigins_resolve (divided : moduleBlocks library module = .ok blocks) :
    List.Forall₂ (Origin.Resolves library data) (moduleOrigins module) blocks := by
  obtain ⟨hash, hashed, divided⟩ := bind_eq_ok.mp divided
  obtain ⟨title, titled, divided⟩ := bind_eq_ok.mp divided
  obtain ⟨tools, listed, divided⟩ := bind_eq_ok.mp divided
  obtain ⟨children, visited, divided⟩ := bind_eq_ok.mp divided
  obtain ⟨childBlocks, mapped, same⟩ := bind_eq_ok.mp divided
  obtain rfl := pure_eq_ok.mp same
  rw [objects_of_iterate visited] at mapped
  refine .cons ⟨titled, hashed, hashed⟩ (.cons ⟨listed, rfl, hashed⟩ ?_)
  rw [List.forall₂_map_left_iff]
  -- A child gives its text and its own hash, and is filed under the module.
  refine (mapM_eq_ok.mp mapped).imp fun child block made => ?_
  obtain ⟨text, written, made⟩ := bind_eq_ok.mp made
  obtain ⟨anchor, own, made⟩ := bind_eq_ok.mp made
  obtain rfl := pure_eq_ok.mp made
  exact ⟨written, own, hashed⟩

/-- The blocks of a publication are those of its parts. -/
theorem origins_resolve (divided : publicationBlocks library data = .ok blocks) :
    List.Forall₂ (Origin.Resolves library data) (origins data) blocks := by
  obtain ⟨tools, listed, divided⟩ := bind_eq_ok.mp divided
  obtain ⟨modules, visited, divided⟩ := bind_eq_ok.mp divided
  obtain ⟨parts, mapped, same⟩ := bind_eq_ok.mp divided
  obtain rfl := pure_eq_ok.mp same
  rw [objects_of_iterate visited] at mapped
  refine .cons ⟨listed, rfl, rfl⟩ (List.rel_flatten ?_)
  -- The modules are divided one after the other.
  rw [List.forall₂_map_left_iff]
  exact (mapM_eq_ok.mp mapped).imp fun module part made => moduleOrigins_resolve made

end Blocks

section Chunks

/-- A text that is kept is the text itself, and it is not empty. -/
theorem nonEmpty_eq_some {text kept : String} :
    nonEmpty text = some kept ↔ text = kept ∧ kept ≠ "" := by
  -- Only the empty text is dropped.
  unfold nonEmpty
  split
  · rename_i empty
    simp only [reduceCtorEq, false_iff, not_and, not_not]
    rintro rfl
    exact empty
  · rename_i filled
    simp only [Option.some.injEq, iff_self_and]
    rintro rfl
    exact filled

/-- A hash is never empty. -/
theorem hashOf_ne_empty {node : Json} {hash : String}
    (read : hashOf library node = .ok (some hash)) : hash ≠ "" := by
  -- An empty anchor has been turned into none.
  obtain ⟨value, _, read⟩ := bind_eq_ok.mp read
  exact (nonEmpty_eq_some.mp (pure_eq_ok.mp read)).2

/-- The anchors of a part are never empty. -/
theorem Origin.Resolves.ne_empty {origin : Origin} {block : Block}
    (resolves : origin.Resolves library data block) {hash : String}
    (held : block.anchor = some hash ∨ block.parentAnchor = some hash) : hash ≠ "" := by
  -- Either anchor is missing or is the hash of a node.
  obtain ⟨_, anchor, parentAnchor⟩ := resolves
  rcases held with own | filed
  · rw [own] at anchor
    cases origin with
    | publicationTools => cases anchor
    | moduleTitle module => exact hashOf_ne_empty anchor
    | moduleTools module => cases anchor
    | block module child => exact hashOf_ne_empty anchor
  · rw [filed] at parentAnchor
    cases origin with
    | publicationTools => cases parentAnchor
    | moduleTitle module => exact hashOf_ne_empty parentAnchor
    | moduleTools module => exact hashOf_ne_empty parentAnchor
    | block module child => exact hashOf_ne_empty parentAnchor

/-- The address of a block is that of its most precise anchor. -/
theorem Origin.Resolves.deepLink {origin : Origin} {block : Block}
    (resolves : origin.Resolves library data block) :
    deepLink baseUrl ((block.anchor.bind nonEmpty).or block.parentAnchor) =
      match block.anchor.or block.parentAnchor with
      | some anchor => baseUrl ++ "#" ++ anchor
      | none => baseUrl := by
  -- The anchor is taken when there is one, or else the one of the module.
  have filled : ∀ hash, block.anchor = some hash ∨ block.parentAnchor = some hash → hash ≠ "" :=
    fun hash held => resolves.ne_empty held
  cases own : block.anchor with
  | some hash =>
    have present := filled hash (Or.inl own)
    simp [nonEmpty, present, TorqueFinder.deepLink]
  | none =>
    cases filed : block.parentAnchor with
    | some hash =>
      have present := filled hash (Or.inr filed)
      simp [present, TorqueFinder.deepLink]
    | none => rfl

/-- The numbered chunks are those of the visible parts. -/
theorem yields_of_numberBlocks {parts : List Origin} (last : Nat)
    (resolved : List.Forall₂ (Origin.Resolves library data) parts blocks) :
    List.Forall₂ (Origin.Yields library data baseUrl)
      (parts.filter (Origin.isVisible library data)) (numberBlocks baseUrl last blocks) := by
  -- A blank part is passed over by the filter and by the numbering.
  induction resolved generalizing last with
  | nil => exact .nil
  | @cons origin block parts blocks resolves rest ih =>
    have visible : origin.isVisible library data = decide (strip block.text ≠ "") := by
      rw [Origin.isVisible, resolves.text]
    rw [List.filter_cons, visible, numberBlocks]
    by_cases blank : strip block.text = ""
    · simpa [blank] using ih last
    · simp only [blank, ne_eq, not_false_eq_true, decide_true, if_true, dif_neg]
      refine .cons ?_ (ih (last + 1))
      exact ⟨⟨block.text, resolves.text, rfl⟩, resolves.anchor, resolves.parentAnchor,
        resolves.deepLink⟩

/-- The chunks of a divided publication are well linked. -/
theorem wellLinked_of_publicationBlocks (divided : publicationBlocks library data = .ok blocks) :
    WellLinked library data baseUrl (numberBlocks baseUrl 0 blocks) where
  parts := yields_of_numberBlocks 0 (origins_resolve divided)
  ordinals := ordinals_of_numberBlocks baseUrl 0 blocks
  texts := by
    intro chunk member
    refine ⟨chunk.text_nonempty, ?_⟩
    -- Every chunk text was stripped when it was numbered.
    have texts := List.mem_map_of_mem (f := HtmlChunk.text) member
    rw [texts_of_numberBlocks] at texts
    obtain ⟨block, _, stripped⟩ := List.mem_map.mp (List.mem_of_mem_filter texts)
    rw [← stripped, strip_strip]
  links := by
    intro chunk member
    obtain ⟨origin, _, yields⟩ :=
      left_of_forall₂ (yields_of_numberBlocks 0 (origins_resolve divided)) member
    rw [yields.sourceUrl]
    -- A fragment makes the address longer than the base.
    cases chunk.anchor with
    | some own => simp [String.append_assoc]
    | none =>
      cases chunk.parentAnchor with
      | some filed => simp [String.append_assoc]
      | none => simp

end Chunks

/-- A list or nothing can be visited. -/
theorem ListOrAbsent.visitable {value : Json} (listed : ListOrAbsent value) : Visitable value := by
  rcases listed with rfl | ⟨items, rfl⟩
  · exact rfl
  · exact trivial

variable {html raw : String} {parsed : ParsedPublication}

/-- A page whose data has lists of modules and children is parsed. -/
theorem parsePublication_ok (printable : library.Printable)
    (extracted : extractManualDataJson html = .ok raw) (loaded : library.loads raw = .ok data)
    (object : isObject data = true) (shaped : ListShaped data) (baseUrl : String) :
    ∃ parsed, parsePublication library html baseUrl = .ok parsed := by
  obtain ⟨modules, children⟩ := shaped
  -- Lists and missing fields can both be visited.
  have wellShaped : WellShaped data :=
    ⟨object, modules.visitable, fun module member isModule =>
      (children module member isModule).visitable⟩
  obtain ⟨parsed, read⟩ := (publicationOfJson_ok_iff printable data baseUrl).mpr wellShaped
  refine ⟨parsed, ?_⟩
  simp only [parsePublication, extracted, loaded, read]
  rfl

/-- The chunks of a parsed page are well linked. -/
theorem wellLinked_of_parsePublication (extracted : extractManualDataJson html = .ok raw)
    (loaded : library.loads raw = .ok data)
    (read : parsePublication library html baseUrl = .ok parsed) :
    WellLinked library data baseUrl parsed.chunks := by
  -- The page that was read is this one, so its blocks are those of this data.
  obtain ⟨otherRaw, otherData, blocks, alsoExtracted, alsoLoaded, divided, chunks⟩ :=
    chunks_of_parsePublication read
  obtain rfl := Except.ok.inj (alsoExtracted.symm.trans extracted)
  obtain rfl := Except.ok.inj (alsoLoaded.symm.trans loaded)
  exact chunks ▸ wellLinked_of_publicationBlocks divided

/-- A page whose data has lists of modules and children is parsed into well-linked chunks. -/
theorem parsePublication_wellLinked (printable : library.Printable)
    (extracted : extractManualDataJson html = .ok raw) (loaded : library.loads raw = .ok data)
    (object : isObject data = true) (shaped : ListShaped data) (baseUrl : String) :
    ∃ parsed, parsePublication library html baseUrl = .ok parsed ∧
      WellLinked library data baseUrl parsed.chunks := by
  -- The lists let the parser through, and its chunks are linked in any case.
  obtain ⟨parsed, read⟩ := parsePublication_ok printable extracted loaded object shaped baseUrl
  exact ⟨parsed, read, wellLinked_of_parsePublication extracted loaded read⟩

/-- A library that knows the data of one page. -/
def manualLibrary (raw : String) (data : Json) : PageLibrary :=
  { numericInterpreter [(raw, data)] with sha256Hex := id, unescape := id, repr := id }

/-- The texts of such a library. -/
theorem manualLibrary_printable (raw : String) (data : Json) : (manualLibrary raw data).Printable :=
  (numericInterpreter_asDocumented _).str_total

/-- The data block of a page with one module, whose block has a hash of its own and a caption. -/
def crankRaw : String :=
  -- The text as the page embeds it.
  "\x7b\"modules\": [\x7b\"hash\": \"#crank\", \"children\": [" ++
    "\x7b\"hash\": \"bolt\", \"content\": [[\x7b\"images\": " ++
      "[\x7b\"caption1\": \"8 mm\"\x7d]\x7d]]\x7d]\x7d]\x7d"

/-- The block of that page. -/
def crankBlock : Json :=
  -- The block has an image and no text.
  .obj [("hash", .str "bolt"),
    ("content", .arr [.arr [.obj [("images", .arr [.obj [("caption1", .str "8 mm")]])]]])]

/-- What the data block is read as. -/
def crankData : Json :=
  .obj [("modules", .arr [.obj [("hash", .str "#crank"), ("children", .arr [crankBlock])]])]

/-- The data of that page has lists of modules and children. -/
theorem crankData_listShaped : ListShaped crankData := by
  refine ⟨Or.inr ⟨_, rfl⟩, ?_⟩
  intro module member _
  obtain rfl := List.mem_singleton.mp member
  exact Or.inr ⟨_, rfl⟩

/-- That page is parsed into well-linked chunks. -/
theorem parsePublication_wellLinked_crank :
    ∃ parsed, parsePublication (manualLibrary crankRaw crankData)
        ("<script id=\"manual-data\">" ++ crankRaw ++ "</script>") "https://docs.sram.com/crank" =
          .ok parsed ∧
      WellLinked (manualLibrary crankRaw crankData) crankData "https://docs.sram.com/crank"
        parsed.chunks :=
  -- The page carries the data between the tags of its script.
  parsePublication_wellLinked (manualLibrary_printable _ _)
    (show _ = Except.ok crankRaw by decide +kernel) rfl rfl crankData_listShaped _

end TorqueFinder
