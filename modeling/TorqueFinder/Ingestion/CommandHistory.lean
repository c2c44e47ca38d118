import TorqueFinder.Discovery.Crawler
import TorqueFinder.Indexing.Backfill
import TorqueFinder.Ingestion.DoclingParser
import TorqueFinder.Ingestion.IngestBatch
import TorqueFinder.Ingestion.PageAlignment
import TorqueFinder.Lib.PyTextLaws

/-! What the database holds after any history of the commands that write to it. -/

namespace TorqueFinder

open PyText ExceptFlow Transaction History

/-- An attempt whose pages are parsed by docling and rendered one after the other. -/
structure PdfAttempt.Genuine (attempt : PdfAttempt) : Prop where
  parsed : ∃ run : DoclingRun, attempt.parsePdf = TorqueFinder.parsePdf run
  rendered : ∃ file : RasterFile, attempt.rendered = TorqueFinder.renderPages file

/-- A command that writes to the database. -/
inductive Command where
  /-- The ingestion of one PDF or of a directory of them. -/
  | ingestPdf (run : PdfRun) (genuine : ∀ attempt ∈ run.targets, attempt.Genuine)
  /-- The ingestion of the publications that are named or due. -/
  | ingestHtml (pipelines : Pipelines) (faults : RegisteredPublication → IngestFaults)
    (pubIds : List String)
  /-- A crawl. -/
  | discover (crawler : DiscoveryCrawler) (crawl : Crawl)
  /-- A backfill, which only writes when asked to. -/
  | backfill (order : SetOrder) (collation : String → String → Bool) (apply : Bool)

/-- What a command leaves of the database. -/
def Command.perform (library : PdfLibrary) (database : Database) : Command → Database
  | .ingestPdf run _ => { database with store := (run.perform library database.store).store }
  | .ingestHtml pipelines faults pubIds =>
    (runIngestHtml pipelines faults pubIds database).database
  | .discover crawler crawl =>
    { database with registry := crawler.crawled database.registry crawl }
  | .backfill order collation apply =>
    match TorqueFinder.backfill order collation apply database.store with
    | .ok (store, _) => { database with store }
    -- An exception rolls the transaction of the backfill back.
    | .error _ => database

/-- The database after a history of commands on empty tables. -/
def databaseAfter (library : PdfLibrary) (history : List Command) : Database :=
  after (Command.perform library) ⟨.empty, .empty⟩ history

/-- What a chunk of a PDF holds: a page with text, its image and its place in the file. -/
def ChunkValues.IsPageOf (sha256 : String) (values : ChunkValues) : Prop :=
  -- A page of a manual links to its number and to its image.
  strip values.text ≠ "" ∧ ∃ pageNo : Nat, 1 ≤ pageNo ∧
    values =
      { ordinal := pageNo, text := values.text
        sourceUrl := pdfKey sha256 ++ "#page=" ++ toString pageNo
        pngR2Key := some (pngKey sha256 pageNo) }

/-- What a chunk of a publication holds: a text without an image, and a link into the page. -/
def ChunkValues.IsSectionOf (sourceUrl : String) (values : ChunkValues) : Prop :=
  -- A section has no image and may have an anchor.
  strip values.text = values.text ∧ values.text ≠ "" ∧ values.pngR2Key = none ∧
    ∃ anchor, values.sourceUrl = deepLink sourceUrl anchor

/-- A document of a PDF, and its pages. -/
structure IsPdfManual (library : PdfLibrary) (document : IndexedDocument)
    (contents : List ChunkValues) : Prop where
  hashed : ∃ bytes, document.sourceRef = library.sha256 bytes
  sourceUrl : document.sourceUrl = pdfKey document.sourceRef
  pages : ∀ values ∈ contents, values.IsPageOf document.sourceRef
  increasing : (contents.map ChunkValues.ordinal).Pairwise (· < ·)

/-- A document of a registered publication, and its sections. -/
structure IsPublication (registry : Registry) (document : IndexedDocument)
    (contents : List ChunkValues) : Prop where
  registered : registry.get document.sourceRef ≠ none
  nonempty : contents ≠ []
  sections : ∀ values ∈ contents, values.IsSectionOf document.sourceUrl
  numbered : contents.map ChunkValues.ordinal =
    (List.range' 1 contents.length).map Int.ofNat

/-- A document with its chunks is what one of the commands makes. -/
structure WellMade (library : PdfLibrary) (registry : Registry) (document : IndexedDocument)
    (contents : List ChunkValues) : Prop where
  facet : ∃ order, document.FacetDerived order
  pdf : document.sourceType = .pdf → IsPdfManual library document contents
  html : document.sourceType = .html → IsPublication registry document contents

/-- Every document of a database is what one of the commands makes. -/
def Database.WellMade (library : PdfLibrary) (database : Database) : Prop :=
  -- Every document holds what its pipeline makes.
  ∀ document ∈ database.store.documents,
    TorqueFinder.WellMade library database.registry document
      (database.store.chunksOf document.id)

variable {library : PdfLibrary} {database next : Database} {document : IndexedDocument}
  {registry later : Registry} {contents : List ChunkValues} {store : Store}

/-- No publication is dropped from the registry. -/
def Registry.Extends (before after : Registry) : Prop :=
  ∀ pubId, before.get pubId ≠ none → after.get pubId ≠ none

/-- A well-made document stays one while the registry grows. -/
theorem WellMade.mono (made : WellMade library registry document contents)
    (extended : registry.Extends later) : WellMade library later document contents where
  -- Only the registration of an HTML document refers to the registry.
  facet := made.facet
  pdf := made.pdf
  html kind :=
    let sections := made.html kind
    ⟨extended _ sections.registered, sections.nonempty, sections.sections, sections.numbered⟩

/-- A registry extends itself. -/
theorem Registry.Extends.refl (registry : Registry) : registry.Extends registry :=
  fun _ known => known

/-- What extends an extension extends the registry. -/
theorem Registry.Extends.trans {middle : Registry} (first : registry.Extends middle)
    (second : middle.Extends later) : registry.Extends later :=
  fun pubId known => second pubId (first pubId known)

/-- An upsert drops no publication. -/
theorem Registry.extends_upsert (registry : Registry) (pub : DiscoveredPublication)
    (models : List String) (now : Nat) :
    registry.Extends (registry.upsert pub models now).1 := by
  intro pubId known
  -- The upserted publication is there, and the others are as before.
  by_cases same : pub.pubId = pubId
  · subst same
    rw [Registry.get, Registry.getRow_upsert]
    exact Option.some_ne_none _
  · rwa [Registry.get, Registry.getRow_upsert_ne models now same]

/-- A status flip drops no publication. -/
theorem Registry.extends_setStatus {pubId : String} {status : PublicationStatus}
    (done : registry.setStatus pubId status = .ok later) : registry.Extends later := by
  intro other known
  unfold Registry.setStatus at done
  split at done
  · cases done
  · rename_i row found
    obtain rfl := Except.ok.inj done
    -- A change of the status keeps the row.
    by_cases same : pubId = other
    · subst same
      rw [Registry.get, Registry.getRow_updateRow, found]
      exact Option.some_ne_none _
    · exact fun dropped => known ((Registry.getRow_updateRow_ne _ same).symm.trans dropped)

/-- A crawl drops no publication. -/
theorem Registry.extends_crawled (crawler : DiscoveryCrawler) (crawl : Crawl)
    (registry : Registry) : registry.Extends (crawler.crawled registry crawl) := by
  have outcome : (∃ pubs gathered, crawler.discoveries crawl = .ok pubs ∧
      crawler.crawled registry crawl =
        DiscoveryCrawler.upsertAll gathered crawl.now registry pubs) ∨
      crawler.crawled registry crawl = registry :=
    DiscoveryCrawler.crawled_eq.imp_right And.right
  rcases outcome with ⟨pubs, gathered, -, same⟩ | same
  · rw [same]
    -- The discoveries are upserted one after the other.
    unfold DiscoveryCrawler.upsertAll
    clear same
    induction pubs generalizing registry with
    | nil => exact .refl registry
    | cons pub rest ih => exact (registry.extends_upsert pub _ crawl.now).trans (ih _)
  · rw [same]
    exact .refl registry

/-- The pages of a new document are those of a PDF. -/
theorem wellMade_of_added {attempt : PdfAttempt} {before after : Store}
    (genuine : attempt.Genuine) (hashed : ∃ bytes, document.sourceRef = library.sha256 bytes)
    (added : AddsDocument library attempt before after document) :
    WellMade library registry document (after.chunksOf document.id) := by
  obtain ⟨pages, embeddings, rendered, parsed, -, -, enough, complete, contents⟩ :=
    added.complete.pages_indexed
  -- The attempt has parsed and rendered a real file.
  obtain ⟨run, docling⟩ := genuine.parsed
  obtain ⟨file, raster⟩ := genuine.rendered
  have seen := seen_of_parsePdf (docling.symm.trans parsed)
  have numbers : rendered.map Prod.fst = List.range' 1 rendered.length :=
    renderPages_numbered file rendered (raster.symm.trans complete.rendered_all)
  have row := added.row
  refine ⟨⟨attempt.order, by rw [row]; rfl⟩, fun _ => ⟨hashed, by rw [row], ?_, ?_⟩, fun kind => ?_⟩
  · intro values member
    rw [Store.chunksOf_eq, contents] at member
    obtain ⟨content, indexed, rfl⟩ := List.mem_map.mp member
    obtain ⟨image, yielded, made⟩ := List.mem_filterMap.mp indexed
    obtain ⟨embedding, found, rfl⟩ := Option.map_eq_some_iff.mp made
    obtain ⟨front, page, back, split, numbered, -, text, -⟩ := embeddingByPage_eq_some enough found
    -- The text of an indexed page is that of a parsed one.
    have inside : page ∈ pages := split ▸ List.mem_append_right _ List.mem_cons_self
    have counted : image.1 ∈ List.range' 1 rendered.length :=
      numbers ▸ List.mem_map_of_mem yielded
    -- The images are counted from one.
    refine ⟨?_, image.1, (List.mem_range'_1.mp counted).1, rfl⟩
    dsimp only [pageValues]
    rw [text]
    exact seen page inside
  · rw [Store.chunksOf_eq, contents, List.map_map]
    refine indexedPages_increasing ?_
    rw [numbers]
    exact List.pairwise_lt_range'
  · rw [row] at kind
    cases kind

/-- A file that is handled leaves every document well made. -/
theorem wellMade_pipelineScope {attempt : PdfAttempt} (genuine : attempt.Genuine)
    (made : Database.WellMade library ⟨store, registry⟩) :
    Database.WellMade library ⟨(pipelineScope library attempt store).1, registry⟩ := by
  rcases pipelineScope_cases library attempt store with ⟨same, -⟩ | ⟨new, -, hashed, added⟩
  · rwa [same]
  · obtain ⟨bytes, -, key⟩ := hashed
    intro document member
    dsimp only at member ⊢
    rw [added.documents, List.mem_append, List.mem_singleton] at member
    rcases member with older | rfl
    · -- The chunks of an older document are the ones it had.
      have chunks := (added.keeps document older).2
      have kept : (pipelineScope library attempt store).1.chunksOf document.id =
          store.chunksOf document.id := by
        rw [Store.chunksOf_eq, Store.chunksOf_eq, Store.contentsOf, chunks]
        rfl
      rw [kept]
      exact made document older
    · exact wellMade_of_added genuine ⟨bytes, key⟩ added

/-- Files that are handled one after the other leave every document well made. -/
theorem wellMade_ingestFiles (files : List PdfAttempt) (code : Nat)
    (genuine : ∀ attempt ∈ files, attempt.Genuine)
    (made : Database.WellMade library ⟨store, registry⟩) :
    Database.WellMade library ⟨(ingestFiles library files store code).store, registry⟩ := by
  -- Every file keeps the invariant, however it ends.
  induction files generalizing store code with
  | nil => exact made
  | cons attempt rest ih =>
    obtain ⟨first, others⟩ := List.forall_mem_cons.mp genuine
    exact ih _ others (wellMade_pipelineScope first made)

/-- A run on PDFs leaves every document well made. -/
theorem wellMade_perform {run : PdfRun} (genuine : ∀ attempt ∈ run.targets, attempt.Genuine)
    (made : Database.WellMade library ⟨store, registry⟩) :
    Database.WellMade library ⟨(run.perform library store).store, registry⟩ := by
  cases run with
  | ingest attempt =>
    exact wellMade_pipelineScope (genuine attempt (List.mem_singleton_self attempt)) made
  | ingestDir directory =>
    show Database.WellMade library ⟨(runIngestDir library directory store).store, registry⟩
    unfold runIngestDir
    -- A path that is no directory ends the command at once.
    split
    · exact made
    · exact wellMade_ingestFiles _ 0 genuine made

/-- A target leaves the database, or what an ingestion of its page makes of it. -/
theorem runTarget_ingested (pipeline : HtmlIngestionPipeline) (faults : IngestFaults)
    (pub : RegisteredPublication) (database : Database) :
    (runTarget pipeline faults pub database).1 = database ∨
      ∃ html document, ingestFetched pipeline pub html database =
        .ok ((runTarget pipeline faults pub database).1, document) := by
  unfold runTarget
  cases performed : (Session.start database).perform (ingestSteps pipeline faults pub) with
  | mk result session =>
    have kept : session.committed = database := Session.committed_of_perform performed
    cases result with
    | error failure => exact .inl ((handleFailure_spec session failure).1.trans kept)
    | ok document =>
      dsimp only
      -- Only a successful commit leaves what the steps have done.
      split
      · have done : ingestSteps pipeline faults pub database = .ok document session.working :=
          Session.perform_eq_ok performed
        obtain ⟨html, -, -, -, ingested, -⟩ := ingestSteps_eq_ok done
        exact .inr ⟨html, document, ingested⟩
      · rename_i interruption _
        exact .inl ((handleFailure_spec session interruption.failure).1.trans kept)

/-- An upserted document has the fields it was upserted with. -/
theorem fields_of_upsertDocument {order : SetOrder} {sourceType : SourceType}
    {title sourceUrl sourceRef : String} {after : Store}
    (done : store.upsertDocument order sourceType title sourceUrl sourceRef =
      .ok (after, document)) :
    document.FacetDerived order ∧ document.sourceType = sourceType ∧
      document.sourceUrl = sourceUrl ∧ document.sourceRef = sourceRef := by
  -- An update and an insert write the same fields.
  obtain ⟨-, ⟨existing, found, kind, rfl, -⟩ | ⟨-, rfl, -⟩⟩ := Store.upsertDocument_cases done
  · have key : existing.sourceRef = sourceRef := Store.sourceRef_of_found found
    exact ⟨rfl, kind, rfl, key⟩
  · exact ⟨rfl, rfl, rfl, rfl⟩

/-- The chunks of a page are sections of it. -/
theorem isSection_of_numberBlocks (baseUrl : String) (last : Nat) (blocks : List Block) :
    ∀ chunk ∈ numberBlocks baseUrl last blocks, chunk.values.IsSectionOf baseUrl := by
  -- The induction follows the numbering, which strips each text and links each chunk.
  induction blocks generalizing last with
  | nil => exact List.forall_mem_nil _
  | cons block rest ih =>
    unfold numberBlocks
    dsimp only
    split
    · exact ih last
    · rename_i seen
      refine List.forall_mem_cons.mpr ⟨?_, ih (last + 1)⟩
      exact ⟨strip_strip block.text, seen, rfl, _, rfl⟩

/-- The document of an ingested page is well made. -/
theorem wellMade_of_ingestFetched {pipeline : HtmlIngestionPipeline} {pub : RegisteredPublication}
    {html : String} (done : ingestFetched pipeline pub html database = .ok (next, document)) :
    WellMade library next.registry document (next.store.chunksOf document.id) := by
  obtain ⟨parsed, embeddings, read, nonempty, embedded, stored, flipped⟩ :=
    ingestFetched_eq_ok done
  obtain ⟨-, -, blocks, -, -, -, chunks⟩ := chunks_of_parsePublication read
  obtain ⟨-, contents, -, -⟩ := storeParsed_spec stored
  obtain ⟨⟨upserted, owner⟩, upsert, rest⟩ := bind_eq_ok.mp stored
  obtain ⟨filled, -, rest⟩ := bind_eq_ok.mp rest
  obtain ⟨rfl, rfl⟩ := Prod.mk.injEq .. ▸ pure_eq_ok.mp rest
  obtain ⟨facet, kind, url, key⟩ := fields_of_upsertDocument upsert
  -- The document holds exactly the chunks of the parsed page.
  have values : next.store.chunksOf owner.id = parsed.chunks.map HtmlChunk.values := by
    rw [Store.chunksOf_eq, contents, contents_fst (embedChunks_eq_ok embedded).2]
  obtain ⟨row, -, registered⟩ := Registry.getRow_setStatus flipped
  refine ⟨⟨_, facet⟩, fun other => ?_, fun _ => ⟨?_, ?_, ?_, ?_⟩⟩
  · -- The document is no manual.
    rw [kind] at other
    cases other
  · rw [key, Registry.get, registered]
    exact Option.some_ne_none _
  · rw [values]
    exact fun none => nonempty (List.map_eq_nil_iff.mp none)
  · rw [values, chunks, url]
    -- Each chunk is one numbered block.
    intro values' member
    obtain ⟨chunk, numbered, rfl⟩ := List.mem_map.mp member
    exact isSection_of_numberBlocks pub.sourceUrl 0 blocks chunk numbered
  · rw [values, List.length_map, List.map_map, chunks]
    have numbers := congrArg (List.map Int.ofNat) (ordinals_of_numberBlocks pub.sourceUrl 0 blocks)
    rw [List.map_map] at numbers
    exact numbers

/-- An ingested page leaves every document well made. -/
theorem wellMade_ingestFetched {pipeline : HtmlIngestionPipeline} {pub : RegisteredPublication}
    {html : String} (made : database.WellMade library)
    (done : ingestFetched pipeline pub html database = .ok (next, document)) :
    next.WellMade library := by
  obtain ⟨_, _, _, _, _, stored, flipped⟩ := ingestFetched_eq_ok done
  obtain ⟨found, -, otherDocuments, otherChunks⟩ := storeParsed_spec stored
  obtain ⟨member, key⟩ := Store.found_iff.mp found
  intro other inside
  by_cases same : other.sourceRef = pub.pubId
  · -- The dedupe key singles out the document of the page.
    obtain rfl : other = document :=
      Table.eq_of_key next.store.sourceRefs_nodup inside member (same.trans key.symm)
    exact wellMade_of_ingestFetched done
  · have old : database.store.getDocumentBySourceRef other.sourceRef = some other :=
      (otherDocuments _ same).symm.trans (Store.found_iff.mpr ⟨inside, rfl⟩)
    have different : other.id ≠ document.id := by
      intro id
      rw [Table.eq_of_key next.store.documentIds_nodup inside member id] at same
      exact same key
    have kept : next.store.chunksOf other.id = database.store.chunksOf other.id := by
      rw [Store.chunksOf_eq, Store.chunksOf_eq, Store.contentsOf, otherChunks _ different]
      rfl
    rw [kept]
    exact (made other (Store.mem_of_found old)).mono (Registry.extends_setStatus flipped)

/-- Targets that are ingested one after the other leave every document well made. -/
theorem wellMade_ingestTargets (pipelines : Pipelines)
    (faults : RegisteredPublication → IngestFaults) (targets : List RegisteredPublication)
    (code : Nat) (made : database.WellMade library) :
    (ingestTargets pipelines faults targets database code).database.WellMade library := by
  induction targets generalizing database code with
  | nil => exact made
  | cons pub rest ih =>
    have handled : (runTarget (pipelines pub) (faults pub) pub database).1.WellMade library := by
      rcases runTarget_ingested (pipelines pub) (faults pub) pub database with
        same | ⟨html, document, ingested⟩
      · rwa [same]
      · exact wellMade_ingestFetched made ingested
    unfold ingestTargets
    -- Whatever became of the first target, the others find the database it left.
    split
    · rename_i left document outcome
      rw [outcome] at handled
      exact ih code handled
    · rename_i left error outcome
      rw [outcome] at handled
      exact ih 1 handled
    · rename_i left failure outcome
      rw [outcome] at handled
      exact handled

/-- A backfill leaves every document well made. -/
theorem wellMade_backfill {order : SetOrder} {collation : String → String → Bool} {apply : Bool}
    {after : Store} {summary : BackfillSummary}
    (made : Database.WellMade library ⟨store, registry⟩)
    (done : TorqueFinder.backfill order collation apply store = .ok (after, summary)) :
    Database.WellMade library ⟨after, registry⟩ := by
  cases apply with
  | false =>
    rw [store_of_audit done]
    exact made
  | true =>
    obtain ⟨chunks, documents⟩ := documents_backfill done
    intro document member
    dsimp only at member ⊢
    rw [documents] at member
    obtain ⟨old, older, rfl⟩ := List.mem_map.mp member
    -- Neither the chunks nor the other fields of a document are touched.
    have before := made old older
    have kept : after.chunksOf (old.rederived order).id = store.chunksOf old.id := by
      rw [Store.chunksOf, chunks]
      rfl
    rw [kept]
    exact ⟨⟨order, facetDerived_rederived old⟩,
      fun kind =>
        let pages := before.pdf kind
        ⟨pages.hashed, pages.sourceUrl, pages.pages, pages.increasing⟩,
      fun kind =>
        let sections := before.html kind
        ⟨sections.registered, sections.nonempty, sections.sections, sections.numbered⟩⟩

/-- Every command leaves every document well made. -/
theorem Command.wellMade_perform (command : Command) (made : database.WellMade library) :
    (command.perform library database).WellMade library := by
  cases command with
  | ingestPdf run genuine => exact TorqueFinder.wellMade_perform genuine made
  -- An unknown id ends the command before the first publication.
  | ingestHtml pipelines faults pubIds =>
    show (runIngestHtml pipelines faults pubIds database).database.WellMade library
    unfold runIngestHtml
    split
    · exact made
    · exact wellMade_ingestTargets pipelines faults _ 0 made
  | discover crawler crawl =>
    -- A crawl writes the registry alone.
    intro document member
    exact (made document member).mono (Registry.extends_crawled crawler crawl database.registry)
  | backfill order collation apply =>
    show Database.WellMade library (match TorqueFinder.backfill order collation apply
      database.store with
      | .ok (store, _) => { database with store }
      | .error _ => database)
    split
    · rename_i after summary done
      exact wellMade_backfill made done
    · exact made

/-- After any history of commands every document is what one of the commands makes. -/
theorem wellMade_databaseAfter (library : PdfLibrary) (history : List Command) :
    (databaseAfter library history).WellMade library := by
  -- Empty tables hold no document, and every command keeps what holds.
  unfold databaseAfter
  refine follows (fun _ (database : Database) => database.WellMade library) ?_
    (fun _ command made => command.wellMade_perform made) history
  exact List.forall_mem_nil _

/-- What becomes of a document: a PDF stays as it was, but for the facet of its title. -/
structure IndexedDocument.EnduresAs (before after : Store) (document later : IndexedDocument) :
    Prop where
  id : later.id = document.id
  sourceRef : later.sourceRef = document.sourceRef
  sourceType : later.sourceType = document.sourceType
  pdf : document.sourceType = .pdf →
    later.title = document.title ∧ later.sourceUrl = document.sourceUrl ∧
      after.ownedChunks document.id = before.ownedChunks document.id

/-- Every document and every publication is still there. -/
structure Database.Endures (before after : Database) : Prop where
  documents : ∀ document ∈ before.store.documents, ∃ later ∈ after.store.documents,
    document.EnduresAs before.store after.store later
  publications : before.registry.Extends after.registry

/-- What is kept endures. -/
theorem endures_of_keeps {after : Store} (kept : Keeps store after) :
    Database.Endures ⟨store, registry⟩ ⟨after, registry⟩ where
  -- A run over files neither changes nor removes a document.
  documents document member :=
    let stays := kept document member
    ⟨document, stays.1, rfl, rfl, rfl, fun _ => ⟨rfl, rfl, stays.2⟩⟩
  publications := .refl registry

/-- A database endures itself. -/
theorem Database.Endures.refl (database : Database) : database.Endures database :=
  endures_of_keeps (.refl database.store)

/-- What endures two changes endures both together. -/
theorem Database.Endures.trans {last : Database} (first : database.Endures next)
    (second : next.Endures last) : database.Endures last where
  -- The number of the document is the same throughout, so its chunks are too.
  documents document member := by
    obtain ⟨middle, stays, held⟩ := first.documents document member
    obtain ⟨later, remains, kept⟩ := second.documents middle stays
    refine ⟨later, remains, kept.id.trans held.id, kept.sourceRef.trans held.sourceRef,
      kept.sourceType.trans held.sourceType, fun kind => ?_⟩
    obtain ⟨title, url, chunks⟩ := held.pdf kind
    obtain ⟨sameTitle, sameUrl, sameChunks⟩ := kept.pdf (held.sourceType.trans kind)
    rw [held.id] at sameChunks
    exact ⟨sameTitle.trans title, sameUrl.trans url, sameChunks.trans chunks⟩
  publications := first.publications.trans second.publications

/-- The ingestion of a page replaces the chunks of a publication, and of no PDF. -/
theorem endures_ingestFetched {pipeline : HtmlIngestionPipeline} {pub : RegisteredPublication}
    {html : String} (done : ingestFetched pipeline pub html database = .ok (next, document)) :
    database.Endures next := by
  obtain ⟨_, _, _, _, _, stored, flipped⟩ := ingestFetched_eq_ok done
  obtain ⟨found, -, otherDocuments, otherChunks⟩ := storeParsed_spec stored
  obtain ⟨member, key⟩ := Store.found_iff.mp found
  refine ⟨fun other inside => ?_, Registry.extends_setStatus flipped⟩
  have old : database.store.getDocumentBySourceRef other.sourceRef = some other :=
    Store.found_iff.mpr ⟨inside, rfl⟩
  by_cases same : other.sourceRef = pub.pubId
  · -- The upsert finds the document, and refuses it unless it is a publication.
    obtain ⟨⟨upserted, owner⟩, upsert, rest⟩ := bind_eq_ok.mp stored
    obtain ⟨filled, -, rest⟩ := bind_eq_ok.mp rest
    obtain ⟨-, rfl⟩ := Prod.mk.injEq .. ▸ pure_eq_ok.mp rest
    rw [same] at old
    obtain ⟨-, ⟨existing, known, kind, made, -⟩ | ⟨new, -⟩⟩ := Store.upsertDocument_cases upsert
    · obtain rfl := Option.some.inj (old.symm.trans known)
      refine ⟨owner, member, by rw [made], by rw [made], by rw [made], fun pdf => ?_⟩
      rw [kind] at pdf
      cases pdf
    · rw [new] at old
      cases old
  · -- A document with another reference keeps its row and its chunks.
    have stays : next.store.getDocumentBySourceRef other.sourceRef = some other :=
      (otherDocuments _ same).trans old
    have remains := Store.mem_of_found stays
    have different : other.id ≠ document.id := by
      intro id
      rw [Table.eq_of_key next.store.documentIds_nodup remains member id] at same
      exact same key
    exact ⟨other, remains, rfl, rfl, rfl, fun _ => ⟨rfl, rfl, otherChunks _ different⟩⟩

/-- Targets that are ingested one after the other leave every document in place. -/
theorem endures_ingestTargets (pipelines : Pipelines)
    (faults : RegisteredPublication → IngestFaults) (targets : List RegisteredPublication)
    (database : Database) (code : Nat) :
    database.Endures (ingestTargets pipelines faults targets database code).database := by
  induction targets generalizing database code with
  | nil => exact .refl database
  | cons pub rest ih =>
    -- One publication either leaves everything or is ingested.
    have handled : database.Endures (runTarget (pipelines pub) (faults pub) pub database).1 := by
      rcases runTarget_ingested (pipelines pub) (faults pub) pub database with
        same | ⟨html, document, ingested⟩
      · rw [same]
        exact .refl database
      · exact endures_ingestFetched ingested
    unfold ingestTargets
    split
    · rename_i left document outcome
      rw [outcome] at handled
      exact handled.trans (ih left code)
    · rename_i left error outcome
      rw [outcome] at handled
      exact handled.trans (ih left 1)
    · rename_i left failure outcome
      rw [outcome] at handled
      exact handled

/-- A backfill changes nothing but facets. -/
theorem endures_backfill {order : SetOrder} {collation : String → String → Bool} {apply : Bool}
    {after : Store} {summary : BackfillSummary}
    (done : TorqueFinder.backfill order collation apply store = .ok (after, summary)) :
    Database.Endures ⟨store, registry⟩ ⟨after, registry⟩ := by
  cases apply with
  | false =>
    rw [store_of_audit done]
    exact .refl _
  | true =>
    obtain ⟨chunks, documents⟩ := documents_backfill done
    refine ⟨fun document member => ?_, .refl registry⟩
    -- Only the facets of a document may change.
    refine ⟨document.rederived order, ?_, rfl, rfl, rfl, fun _ => ⟨rfl, rfl, ?_⟩⟩
    · dsimp only
      rw [documents]
      exact List.mem_map_of_mem member
    · dsimp only
      rw [Store.ownedChunks, chunks]
      rfl

/-- Every command leaves every document in place. -/
theorem Command.endures_perform (library : PdfLibrary) (database : Database) (command : Command) :
    database.Endures (command.perform library database) := by
  cases command with
  | ingestPdf run genuine => exact endures_of_keeps (trace_perform library _ run).keeps
  | ingestHtml pipelines faults pubIds =>
    show database.Endures (runIngestHtml pipelines faults pubIds database).database
    unfold runIngestHtml
    split
    · exact .refl database
    · exact endures_ingestTargets pipelines faults _ database 0
  | discover crawler crawl =>
    -- A crawl adds publications and touches no document.
    exact ⟨(Database.Endures.refl database).documents,
      Registry.extends_crawled crawler crawl database.registry⟩
  | backfill order collation apply =>
    show database.Endures (match TorqueFinder.backfill order collation apply database.store with
      | .ok (store, _) => { database with store }
      | .error _ => database)
    split
    · rename_i after summary done
      exact endures_backfill done
    · exact .refl database

/-- What a history leaves endures whatever commands come later. -/
theorem endures_databaseAfter (library : PdfLibrary) (history later : List Command) :
    (databaseAfter library history).Endures (databaseAfter library (history ++ later)) := by
  unfold databaseAfter
  rw [after_append]
  -- The later commands are performed one after the other on what the history left.
  exact follows (fun _ (database : Database) => Database.Endures _ database) (.refl _)
    (fun _ command held => held.trans (command.endures_perform library _)) later

/-- After any history what the database holds is well made, and it endures whatever comes later. -/
theorem databaseAfter_sound (library : PdfLibrary) (history later : List Command) :
    (databaseAfter library (history ++ later)).WellMade library ∧
      (databaseAfter library history).Endures (databaseAfter library (history ++ later)) :=
  -- The invariant and the order hold of every history.
  ⟨wellMade_databaseAfter library _, endures_databaseAfter library history later⟩

end TorqueFinder
