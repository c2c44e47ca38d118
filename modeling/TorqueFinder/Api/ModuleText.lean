import TorqueFinder.Api.QueryLaws
import TorqueFinder.Ingestion.HtmlPipeline
import TorqueFinder.Lib.PyTextLaws

/-! The text of a module as the route reads it back from the chunks an ingestion stored. -/

namespace TorqueFinder

open PyText PyJson ExceptFlow

/-- The texts one module of a publication carries, under its hash. -/
structure ModuleEntry where
  hash : Option String
  title : String
  tools : String
  blocks : List String
  deriving DecidableEq

/-- The texts of one module. -/
def moduleEntry (library : PageLibrary) (module : Json) : Except PyException ModuleEntry := do
  let hash ← hashOf library module
  let title ← strippedText library (module.get "title")
  let tools ← toolListText library (module.get "toolList")
  -- Children that are no objects are passed over.
  let blocks ← ((itemsOf (module.get "children")).filter isObject).mapM (blockText library)
  return { hash, title, tools, blocks }

/-- The modules of a publication in document order. -/
def moduleEntries (library : PageLibrary) (data : Json) : Except PyException (List ModuleEntry) :=
  ((itemsOf (data.get "modules")).filter isObject).mapM (moduleEntry library)

/-- The texts among some that are not blank, stripped. -/
def visibleTexts (texts : List String) : List String :=
  (texts.map strip).filter fun text => text ≠ ""

/-- The texts of a module that are not blank, its title first. -/
def ModuleEntry.texts (entry : ModuleEntry) : List String :=
  visibleTexts (entry.title :: entry.tools :: entry.blocks)

/-- The texts of the modules with a hash. -/
def ownedTexts (entries : List ModuleEntry) (hash : String) : List String :=
  (entries.filter fun entry => entry.hash = some hash).flatMap ModuleEntry.texts

/-- The texts of the blocks filed under a hash. -/
def filedTexts (blocks : List Block) (hash : String) : List String :=
  visibleTexts ((blocks.filter fun block => block.parentAnchor = some hash).map Block.text)

/-- The services read this store. -/
def ApiServices.Reads (services : ApiServices) (store : Store) : Prop :=
  -- The query returns what the store holds, for every document and anchor.
  ∀ documentId parentAnchor,
    services.fetchModuleText documentId parentAnchor =
      .ok (store.fetchModuleText documentId parentAnchor)

/-- The first characters of a text, as far as a label goes. -/
def cutLabel (text : String) : String := String.ofList (text.toList.take labelMaxChars)

variable {library : PageLibrary} {module data : Json} {blocks : List Block} {hash : String}

/-- The blocks of a module carry its texts, and all of them are filed under its hash. -/
theorem moduleEntry_of_moduleBlocks (divided : moduleBlocks library module = .ok blocks) :
    ∃ entry, moduleEntry library module = .ok entry ∧
      blocks.map Block.text = entry.title :: entry.tools :: entry.blocks ∧
        ∀ block ∈ blocks, block.parentAnchor = entry.hash := by
  obtain ⟨hash, hashed, divided⟩ := bind_eq_ok.mp divided
  obtain ⟨title, titled, divided⟩ := bind_eq_ok.mp divided
  obtain ⟨tools, listed, divided⟩ := bind_eq_ok.mp divided
  obtain ⟨children, visited, divided⟩ := bind_eq_ok.mp divided
  obtain ⟨childBlocks, mapped, same⟩ := bind_eq_ok.mp divided
  obtain rfl := pure_eq_ok.mp same
  rw [objects_of_iterate visited] at mapped
  -- A block of a child has the text of the child and the hash of the module.
  have texts : ((itemsOf (module.get "children")).filter isObject).mapM (blockText library) =
      .ok (childBlocks.map Block.text) := by
    rw [mapM_eq_ok, List.forall₂_map_right_iff]
    refine (mapM_eq_ok.mp mapped).imp fun child block made => ?_
    obtain ⟨text, written, made⟩ := bind_eq_ok.mp made
    obtain ⟨anchor, _, made⟩ := bind_eq_ok.mp made
    obtain rfl := pure_eq_ok.mp made
    exact written
  have filed : ∀ block ∈ childBlocks, block.parentAnchor = hash :=
    forall_of_mapM_eq_ok mapped fun child block made => by
      obtain ⟨_, _, made⟩ := bind_eq_ok.mp made
      obtain ⟨_, _, made⟩ := bind_eq_ok.mp made
      obtain rfl := pure_eq_ok.mp made
      rfl
  refine ⟨{ hash, title, tools, blocks := childBlocks.map Block.text }, ?_, by simp, ?_⟩
  · simp [moduleEntry, hashed, titled, listed, texts, pure, Except.pure]
  · simpa using filed

/-- Under a hash a module files all its texts, or none when the hash is not its own. -/
theorem filedTexts_of_module {entry : ModuleEntry}
    (texts : blocks.map Block.text = entry.title :: entry.tools :: entry.blocks)
    (filed : ∀ block ∈ blocks, block.parentAnchor = entry.hash) (hash : String) :
    filedTexts blocks hash = if entry.hash = some hash then entry.texts else [] := by
  -- All blocks of a module have its hash, so the filter keeps all of them or none.
  unfold filedTexts
  split
  · rename_i own
    rw [List.filter_eq_self.mpr fun block member => by simp [filed block member, own], texts]
    rfl
  · rename_i foreign
    rw [List.filter_eq_nil_iff.mpr fun block member => by simp [filed block member, foreign]]
    rfl

/-- What is filed under a hash in two lists of blocks is filed one after the other. -/
theorem filedTexts_append (front back : List Block) (hash : String) :
    filedTexts (front ++ back) hash = filedTexts front hash ++ filedTexts back hash := by
  simp [filedTexts, visibleTexts]

/-- The blocks of some modules file under a hash the texts of the modules that have it. -/
theorem filedTexts_of_modules {modules : List Json} {parts : List (List Block)}
    (mapped : modules.mapM (moduleBlocks library) = .ok parts) :
    ∃ entries, modules.mapM (moduleEntry library) = .ok entries ∧
      ∀ hash, filedTexts parts.flatten hash = ownedTexts entries hash := by
  -- The modules and their blocks are taken off together.
  induction mapM_eq_ok.mp mapped with
  | nil => exact ⟨[], by simp [pure, Except.pure], fun hash => rfl⟩
  | @cons module part modules parts made rest ih =>
    obtain ⟨entries, read, texts⟩ := ih (mapM_eq_ok.mpr rest)
    obtain ⟨entry, first, carried, filed⟩ := moduleEntry_of_moduleBlocks made
    refine ⟨entry :: entries, ?_, fun hash => ?_⟩
    · simp [List.mapM_cons, first, read, pure, Except.pure]
    · rw [List.flatten_cons, filedTexts_append, texts, filedTexts_of_module carried filed]
      by_cases own : entry.hash = some hash
      · simp [ownedTexts, own]
      · simp [ownedTexts, own]

/-- The blocks of a publication file under a hash the texts of its modules that have it. -/
theorem filedTexts_of_publicationBlocks
    (divided : publicationBlocks library data = .ok blocks) :
    ∃ entries, moduleEntries library data = .ok entries ∧
      ∀ hash, filedTexts blocks hash = ownedTexts entries hash := by
  obtain ⟨tools, _, divided⟩ := bind_eq_ok.mp divided
  obtain ⟨modules, visited, divided⟩ := bind_eq_ok.mp divided
  obtain ⟨parts, mapped, same⟩ := bind_eq_ok.mp divided
  obtain rfl := pure_eq_ok.mp same
  rw [objects_of_iterate visited] at mapped
  obtain ⟨entries, read, texts⟩ := filedTexts_of_modules mapped
  -- The tools of the whole publication are filed under no hash.
  have unfiled : ∀ hash, filedTexts [⟨tools, none, none⟩] hash = [] := fun hash => rfl
  refine ⟨entries, read, fun hash => ?_⟩
  rw [← List.singleton_append, filedTexts_append, unfiled, texts, List.nil_append]

/-- The numbered chunks with a parent anchor have the texts filed under it. -/
theorem texts_of_parentAnchor (baseUrl : String) (last : Nat) (blocks : List Block)
    (hash : String) :
    (((numberBlocks baseUrl last blocks).filter fun chunk =>
      chunk.parentAnchor = some hash).map HtmlChunk.text) = filedTexts blocks hash := by
  -- A blank block is neither numbered nor visible.
  induction blocks generalizing last with
  | nil => rfl
  | cons block rest ih =>
    rw [← List.singleton_append, filedTexts_append, List.singleton_append, numberBlocks]
    by_cases own : block.parentAnchor = some hash <;>
      by_cases blank : strip block.text = "" <;>
        simp [own, blank, ih, filedTexts, visibleTexts]

variable {pipeline : HtmlIngestionPipeline} {pub : RegisteredPublication} {html : String}
  {database next : Database} {document : IndexedDocument} {entries : List ModuleEntry}
  {entry : ModuleEntry}

/-- After an ingestion the text of a module joins the texts of the modules with its hash. -/
theorem texts_of_ingestFetched
    (done : ingestFetched pipeline pub html database = .ok (next, document)) :
    document.sourceType = .html ∧
      ∃ raw data entries, extractManualDataJson html = .ok raw ∧
        pipeline.library.loads raw = .ok data ∧
          moduleEntries pipeline.library data = .ok entries ∧
            ∀ hash, ((next.store.chunksOf document.id).filter fun values =>
                values.parentAnchor = some hash).map ChunkValues.text = ownedTexts entries hash ∧
              next.store.fetchModuleText document.id hash =
                "\n\n".intercalate (ownedTexts entries hash) := by
  obtain ⟨parsed, embeddings, read, _, embedded, stored, _⟩ := ingestFetched_eq_ok done
  obtain ⟨raw, data, blocks, extracted, loaded, divided, chunks⟩ := chunks_of_parsePublication read
  obtain ⟨entries, listed, filed⟩ := filedTexts_of_publicationBlocks divided
  -- The document holds the chunks of the parsed page.
  have contents : next.store.chunksOf document.id = parsed.chunks.map HtmlChunk.values := by
    rw [Store.chunksOf_eq, (storeParsed_spec stored).2.1,
      contents_fst (embedChunks_eq_ok embedded).2]
  -- The parent of a chunk is the hash of its module.
  have texts : ∀ hash, ((next.store.chunksOf document.id).filter fun values =>
      values.parentAnchor = some hash).map ChunkValues.text = ownedTexts entries hash := by
    intro hash
    rw [contents, chunks, ← filed, ← texts_of_parentAnchor pub.sourceUrl 0, List.filter_map,
      List.map_map]
    rfl
  -- The chunks were numbered in the order they are stored in.
  have ordered : (next.store.chunksOf document.id).Pairwise fun first second =>
      first.ordinal ≤ second.ordinal := by
    have numbered := ordinals_of_numberBlocks pub.sourceUrl 0 blocks
    have increasing : ((numberBlocks pub.sourceUrl 0 blocks).map HtmlChunk.ordinal).Pairwise
        (· < ·) := by
      rw [numbered]
      exact List.pairwise_lt_range'
    rw [contents, chunks, List.pairwise_map]
    refine (List.pairwise_map.mp increasing).imp fun {first second} less => ?_
    exact Int.ofNat_le.mpr less.le
  refine ⟨sourceType_of_storeParsed stored, raw, data, entries, extracted, loaded, listed,
    fun hash => ⟨texts hash, ?_⟩⟩
  rw [Store.fetchModuleText_eq ordered, texts]

/-- The texts of modules are stripped, and none is empty. -/
theorem visible_of_ownedTexts {text : String} (member : text ∈ ownedTexts entries hash) :
    strip text = text ∧ text ≠ "" := by
  -- Every text that is kept was stripped and passed the filter.
  obtain ⟨entry, _, own⟩ := List.mem_flatMap.mp member
  obtain ⟨stripped, visible⟩ := List.mem_filter.mp own
  obtain ⟨original, _, rfl⟩ := List.mem_map.mp stripped
  exact ⟨strip_strip original, by simpa using visible⟩

/-- The title of a module is stripped. -/
theorem strip_title (listed : moduleEntries library data = .ok entries) :
    ∀ entry ∈ entries, strip entry.title = entry.title :=
  -- The title was stripped when it was read.
  forall_of_mapM_eq_ok listed fun module entry read => by
    obtain ⟨_, _, read⟩ := bind_eq_ok.mp read
    obtain ⟨title, titled, read⟩ := bind_eq_ok.mp read
    obtain ⟨_, _, read⟩ := bind_eq_ok.mp read
    obtain ⟨_, _, read⟩ := bind_eq_ok.mp read
    obtain rfl := pure_eq_ok.mp read
    obtain ⟨text, _, rfl⟩ := map_eq_ok.mp titled
    exact strip_strip text

/-- When one module has a hash, its texts come first with its title. -/
theorem ownedTexts_of_title (stripped : strip entry.title = entry.title)
    (only : entries.filter (fun other => other.hash = some hash) = [entry])
    (titled : entry.title ≠ "") : ∃ rest, ownedTexts entries hash = entry.title :: rest := by
  -- With one module under the hash, its title is the first visible text.
  refine ⟨visibleTexts (entry.tools :: entry.blocks), ?_⟩
  rw [ownedTexts, only]
  simp [ModuleEntry.texts, visibleTexts, stripped, titled]

/-- The label of a section is the first line of the first text it joins. -/
theorem htmlLabel_join {first : String} {rest : List String}
    (visible : ∀ text ∈ first :: rest, strip text = text ∧ text ≠ "") (hit : RetrievedChunk) :
    htmlLabel ("\n\n".intercalate (first :: rest)) hit = cutLabel (strip (firstLine first)) := by
  -- The join is stripped already, and its first line is that of the first text.
  obtain ⟨stripped, nonempty⟩ := visible first List.mem_cons_self
  have whole := strip_join "\n\n" (fun text member => (visible text member).1)
    fun text member => (visible text member).2
  have line := firstLine_join first rest
  unfold htmlLabel
  rw [whole]
  change cutLabel (if strip (firstLine _) = "" then _ else strip (firstLine _)) = _
  rw [line, if_neg (strip_firstLine_ne_empty stripped nonempty)]

/-- A section is presented by its module text, under the label of that text. -/
theorem candidateOf_html {services : ApiServices} {hit : RetrievedChunk} {text : String}
    (kind : hit.sourceType = .html) (read : moduleText services hit = .ok text) (index : Nat) :
    ∃ candidate, candidateOf services hit index = .ok candidate ∧
      candidate.label = htmlLabel text hit ∧
        ∃ sent, candidateBlocks candidate = .ok [.text sent] ∧ OccursIn text sent := by
  unfold candidateOf
  rw [kind]
  simp only [read, ok_bind]
  refine ⟨_, rfl, rfl, _, rfl, ?_⟩
  -- The text stands between two rules behind the number and the label.
  simp only [sectionText, OccursIn, String.toList_append]
  exact (List.suffix_append _ _).isInfix.trans (List.prefix_append _ _).isInfix

/-- The hit that search makes of a stored chunk. -/
def hitOf (chunk : Chunk) (document : IndexedDocument) (score : ℚ) : RetrievedChunk :=
  rowToRetrieved (ChunkRow.join chunk document) score

/-- What is read back under a hash: the texts of the modules that have it, and nothing else. -/
structure ReadsModule (store : Store) (document : IndexedDocument) (entries : List ModuleEntry)
    (hash : String) : Prop where
  joined : store.fetchModuleText document.id hash = "\n\n".intercalate (ownedTexts entries hash)
  empty_iff : store.fetchModuleText document.id hash = "" ↔ ownedTexts entries hash = []

/-- A module that alone has a hash is read back and presented under its title. -/
def PresentsTitle (store : Store) (document : IndexedDocument) (entries : List ModuleEntry)
    (labelOf : String → String) : Prop :=
  ∀ hash entry, entries.filter (fun other => other.hash = some hash) = [entry] →
    entry.title ≠ "" →
      -- The stored text begins with the title, and so does what a search result shows.
      entry.title.toList <+: (store.fetchModuleText document.id hash).toList ∧
        ∀ services : ApiServices, services.Reads store →
          ∀ chunk ∈ store.ownedChunks document.id, chunk.values.parentAnchor = some hash →
            ∀ score index, ∃ candidate,
              candidateOf services (hitOf chunk document score) index = .ok candidate ∧
                candidate.label = labelOf entry.title

/-- The text that is sent for a hit contains the text of its chunk. -/
def SendsHit (store : Store) (document : IndexedDocument) : Prop :=
  -- The text of the hit itself stands somewhere in what is sent for it.
  ∀ services : ApiServices, services.Reads store →
    ∀ chunk ∈ store.ownedChunks document.id, ∀ score index, ∃ candidate sent,
      candidateOf services (hitOf chunk document score) index = .ok candidate ∧
        candidateBlocks candidate = .ok [.text sent] ∧ OccursIn chunk.values.text sent

/-- Modules are read back exactly, whatever the page, and presented under their titles. -/
def ReconstructsModules (pipeline : HtmlIngestionPipeline) (pub : RegisteredPublication)
    (database : Database) (labelOf : String → String) : Prop :=
  ∀ next document, ingestPublication pipeline pub database = .ok (next, document) →
    -- The entries are read off the page, not off what was stored.
    ∃ html raw data entries, pipeline.fetch pub.sourceUrl = some html ∧
      extractManualDataJson html = .ok raw ∧ pipeline.library.loads raw = .ok data ∧
        moduleEntries pipeline.library data = .ok entries ∧
          (∀ hash, ReadsModule next.store document entries hash) ∧
            PresentsTitle next.store document entries labelOf ∧ SendsHit next.store document

/-- What the route hands on for a hit in a module is the module, and it contains the hit. -/
theorem moduleText_of_hit {store : Store} {services : ApiServices} {chunk : Chunk}
    (reads : services.Reads store) (parent : chunk.values.parentAnchor = some hash)
    (nonempty : store.fetchModuleText document.id hash ≠ "")
    (owner : chunk.documentId = document.id) (score : ℚ) :
    moduleText services (hitOf chunk document score) =
      .ok (store.fetchModuleText document.id hash) := by
  -- A hit of the document asks for the module it is filed under.
  have fetched : services.fetchModuleText (hitOf chunk document score).documentId hash =
      .ok (store.fetchModuleText document.id hash) := by
    rw [← owner]
    exact reads _ _
  have anchored : (hitOf chunk document score).parentAnchor = some hash := parent
  simp [moduleText, anchored, fetched, uncaughtBy, nonempty, pure, Except.pure]

/-- Every publication is read back module by module, labelled by the first lines of the titles. -/
theorem reconstructsModules (pipeline : HtmlIngestionPipeline) (pub : RegisteredPublication)
    (database : Database) :
    ReconstructsModules pipeline pub database fun title => cutLabel (strip (firstLine title)) := by
  intro next document done
  unfold ingestPublication at done
  split at done
  · cases done
  rename_i html fetched
  obtain ⟨kind, raw, data, entries, extracted, loaded, listed, texts⟩ := texts_of_ingestFetched done
  -- No module text is empty, so only a join of nothing is.
  have reads : ∀ hash, ReadsModule next.store document entries hash := fun hash =>
    { joined := (texts hash).2
      empty_iff := by
        rw [(texts hash).2]
        exact join_eq_empty_iff fun text member => (visible_of_ownedTexts member).2 }
  -- The text of a chunk is one of the texts of its module.
  have among : ∀ hash, ∀ chunk ∈ next.store.ownedChunks document.id,
      chunk.values.parentAnchor = some hash → chunk.values.text ∈ ownedTexts entries hash := by
    intro hash chunk member parent
    rw [← (texts hash).1]
    refine List.mem_map_of_mem (List.mem_filter.mpr ⟨?_, by simpa using parent⟩)
    exact List.mem_map_of_mem member
  have owner : ∀ chunk ∈ next.store.ownedChunks document.id, chunk.documentId = document.id :=
    fun chunk member => by simpa using List.of_mem_filter member
  have filled : ∀ hash, ∀ chunk ∈ next.store.ownedChunks document.id,
      chunk.values.parentAnchor = some hash →
        next.store.fetchModuleText document.id hash ≠ "" := by
    intro hash chunk member parent empty
    have none := (reads hash).empty_iff.mp empty
    exact List.not_mem_nil (none ▸ among hash chunk member parent)
  refine ⟨html, raw, data, entries, fetched, extracted, loaded, listed, reads, ?_, ?_⟩
  · intro hash entry only titled
    have own : entry ∈ entries := by
      have inside : entry ∈ entries.filter (fun other => other.hash = some hash) := by simp [only]
      exact List.mem_of_mem_filter inside
    obtain ⟨rest, split⟩ := ownedTexts_of_title (strip_title listed entry own) only titled
    have joined : next.store.fetchModuleText document.id hash =
        "\n\n".intercalate (entry.title :: rest) := by rw [(texts hash).2, split]
    refine ⟨joined ▸ prefix_join _ _ _, fun services reading chunk member parent score index => ?_⟩
    have handed := moduleText_of_hit reading parent (filled hash chunk member parent)
      (owner chunk member) score
    obtain ⟨candidate, built, label, _⟩ := candidateOf_html kind handed index
    refine ⟨candidate, built, label.trans ?_⟩
    rw [joined]
    exact htmlLabel_join (fun text inside => visible_of_ownedTexts (split ▸ inside)) _
  · intro services reading chunk member score index
    cases parent : chunk.values.parentAnchor with
    | none =>
      -- Without a module the hit's own text is sent.
      have handed : moduleText services (hitOf chunk document score) = .ok chunk.values.text := by
        have loose : (hitOf chunk document score).parentAnchor = none := parent
        simp only [moduleText, loose]
        rfl
      obtain ⟨candidate, built, _, sent, blocks, inside⟩ := candidateOf_html kind handed index
      exact ⟨candidate, sent, built, blocks, inside⟩
    | some hash =>
      have handed := moduleText_of_hit reading parent (filled hash chunk member parent)
        (owner chunk member) score
      obtain ⟨candidate, built, _, sent, blocks, inside⟩ := candidateOf_html kind handed index
      refine ⟨candidate, sent, built, blocks, List.IsInfix.trans ?_ inside⟩
      rw [(texts hash).2]
      exact occursIn_join (among hash chunk member parent)

/-- The data of a publication whose module has a title of two lines. -/
def twoLineData : String :=
  "\x7b\"modules\": [\x7b\"hash\": \"#cap\", \"title\": \"Top cap \\n7.3 N-m\"\x7d]\x7d"

/-- That data as a JSON value. -/
def twoLineJson : Json :=
  .obj [("modules", .arr [.obj [("hash", .str "#cap"), ("title", .str "Top cap \n7.3 N-m")]])]

/-- Collaborators that find a page with that data. -/
def twoLinePipeline : HtmlIngestionPipeline where
  order := .textual
  fetch _ := some ("<script id=\"manual-data\">" ++ twoLineData ++ "</script>")
  embedDocuments texts := some (texts.map fun _ => [])
  library :=
    { numericInterpreter [(twoLineData, twoLineJson)] with
      sha256Hex := id, unescape := id, repr := id }

/-- The publication with that page. -/
def twoLinePublication : RegisteredPublication where
  pubId := "6TmfV97f"
  pubType := "UM"
  title := "Pike"
  locale := "en-US"
  sourceUrl := "https://docs.sram.com/6TmfV97f"
  series := []
  models := []
  procedures := []
  referencedByModels := []
  contentHash := ""
  status := .discovered
  discoveredAt := 0
  lastSeenAt := 0

/-- A database in which only that publication is registered. -/
def twoLineDatabase : Database where
  store := .empty
  registry := { rows := [twoLinePublication], pubIds_nodup := by decide }

/-- Services that read a store and do nothing else. -/
def storeServices (store : Store) : ApiServices where
  -- Only the query for a module reads the store.
  search _ := .ok []
  fetchModuleText documentId parentAnchor := .ok (store.fetchModuleText documentId parentAnchor)
  extractor :=
    { order := .textual
      stub := true
      interpreter := numericInterpreter []
      create := fun _ => .ok { stopReason := none, content := [] } }
  r2 :=
    { publicBaseUrl := none
      generatePresignedUrl := fun _ _ => .error ⟨""⟩
      presign_empty := fun _ => ⟨_, rfl⟩ }
  httpGet _ := .error .other

/-- A label does not keep the white space at the end of the line it is taken from. -/
theorem not_labelled_by_firstLine :
    ¬ ∀ (pipeline : HtmlIngestionPipeline) (pub : RegisteredPublication) (database : Database),
      ReconstructsModules pipeline pub database fun title => cutLabel (firstLine title) := by
  intro always
  -- The ingestion stores one chunk, the title of the module.
  have shown : (fun done : Database × IndexedDocument =>
      (done.2.sourceType, done.1.store.fetchModuleText done.2.id "cap",
        (done.1.store.ownedChunks done.2.id).map fun chunk => chunk.values.parentAnchor)) <$>
        ingestPublication twoLinePipeline twoLinePublication twoLineDatabase =
          .ok (.html, "Top cap \n7.3 N-m", [some "cap"]) := by decide +kernel
  obtain ⟨⟨next, document⟩, done, same⟩ := map_eq_ok.mp shown
  obtain ⟨kind, text, parents⟩ := by simpa only [Prod.mk.injEq] using same
  obtain ⟨chunk, owned, parent⟩ := List.map_eq_singleton_iff.mp parents
  obtain ⟨html, raw, data, entries, fetched, extracted, loaded, listed, _, presents, _⟩ :=
    always _ _ _ next document done
  -- The data of the page lists that module only.
  obtain rfl := Option.some.inj fetched
  have found : extractManualDataJson ("<script id=\"manual-data\">" ++ twoLineData ++ "</script>") =
      .ok twoLineData := by decide +kernel
  obtain rfl := Except.ok.inj (found.symm.trans extracted)
  have known : twoLinePipeline.library.loads twoLineData = .ok twoLineJson := by
    simp [twoLinePipeline, numericInterpreter, tableInterpreter]
  obtain rfl := Except.ok.inj (known.symm.trans loaded)
  have only : moduleEntries twoLinePipeline.library twoLineJson =
      .ok [{ hash := some "cap", title := "Top cap \n7.3 N-m", tools := "", blocks := [] }] := by
    decide +kernel
  obtain rfl := Except.ok.inj (only.symm.trans listed)
  have member : chunk ∈ next.store.ownedChunks document.id := by simp [owned]
  have reads : (storeServices next.store).Reads next.store := fun _ _ => rfl
  obtain ⟨_, labelled⟩ := presents "cap" _ rfl (by decide)
  obtain ⟨candidate, built, label⟩ := labelled _ reads chunk member parent 0 1
  -- The route labels a hit in it by the stripped line.
  have handed := moduleText_of_hit reads parent (by rw [text]; decide)
    (by simpa using List.of_mem_filter member) 0
  rw [text] at handed
  obtain ⟨other, alsoBuilt, stripped, _⟩ := candidateOf_html kind handed 1
  obtain rfl := Except.ok.inj (built.symm.trans alsoBuilt)
  rw [label] at stripped
  have visible : ∀ text ∈ ["Top cap \n7.3 N-m"], strip text = text ∧ text ≠ "" := by
    decide +kernel
  have short := htmlLabel_join visible (hitOf chunk document 0)
  rw [String.intercalate_singleton] at short
  exact absurd (stripped.trans short) (by decide +kernel)

end TorqueFinder
