import TorqueFinder.Ingestion.CommandHistory
import TorqueFinder.Migrations.RoundTrip

/-! What taking the newer revisions back and redoing them leaves of what the commands stored. -/

namespace TorqueFinder.Migrations

open ExceptFlow Ranking Relational

/-- The creation times the database gave the rows, by their ids. -/
structure Stamps where
  document : Int → Int
  chunk : Int → Int

/-- A document without the columns of its facet. -/
def plainDocument (stamps : Stamps) (document : IndexedDocument) : DocumentRow where
  -- The facets are columns of a later migration, so they are dropped.
  id := document.id
  sourceType := document.sourceType
  title := document.title
  sourceUrl := document.sourceUrl
  sourceRef := document.sourceRef
  createdAt := stamps.document document.id

/-- A chunk with its creation time. -/
def plainChunk (stamps : Stamps) (chunk : Chunk) : ChunkRow where
  -- The chunks keep all their columns.
  id := chunk.id
  documentId := chunk.documentId
  ordinal := chunk.values.ordinal
  text := chunk.values.text
  embedding := chunk.embedding
  pngR2Key := chunk.values.pngR2Key
  anchor := chunk.values.anchor
  parentAnchor := chunk.values.parentAnchor
  sourceUrl := chunk.values.sourceUrl
  createdAt := stamps.chunk chunk.id

/-- Revision 0006 taken back: the columns of the facets are dropped. -/
def downgrade0006 (stamps : Stamps) (store : Store) : Unified where
  -- Dropping columns leaves the keys, so every constraint still holds.
  documents := store.documents.map (plainDocument stamps)
  chunks := store.chunks.map (plainChunk stamps)
  documentIds_nodup := by
    rw [List.map_map]
    exact store.documentIds_nodup
  sourceRefs_nodup := by
    rw [List.map_map]
    exact store.sourceRefs_nodup
  chunkIds_nodup := by
    rw [List.map_map]
    exact store.chunkIds_nodup
  chunkKeys_nodup := by
    rw [List.map_map]
    exact store.pages_nodup
  chunks_owned := by
    intro chunk member
    obtain ⟨stored, inside, rfl⟩ := List.mem_map.mp member
    rw [List.map_map]
    exact store.chunks_owned stored inside

/-- A document with empty columns for its facet. -/
def facetlessDocument (row : DocumentRow) : IndexedDocument where
  -- The new columns are null until the backfill runs.
  id := row.id
  sourceType := row.sourceType
  title := row.title
  sourceUrl := row.sourceUrl
  sourceRef := row.sourceRef
  productFamily := none
  brand := none

/-- A chunk as the repository reads it. -/
def readChunk (row : ChunkRow) : Chunk where
  id := row.id
  documentId := row.documentId
  values :=
    { ordinal := row.ordinal, text := row.text, sourceUrl := row.sourceUrl
      pngR2Key := row.pngR2Key, anchor := row.anchor, parentAnchor := row.parentAnchor }
  embedding := row.embedding

/-- The number a sequence gives next, behind the largest id in use. -/
def nextSerial (ids : List Int) : Int := ids.max?.getD 0 + 1

/-- The next number is larger than every id in use. -/
theorem lt_nextSerial {ids : List Int} {id : Int} (member : id ∈ ids) : id < nextSerial ids := by
  -- A list with a member has a largest one.
  cases largest : ids.max? with
  | none =>
    rw [List.max?_eq_none_iff.mp largest] at member
    cases member
  | some greatest =>
    have bound := (List.max?_eq_some_iff.mp largest).2 id member
    rw [nextSerial, largest, Option.getD_some]
    omega

/-- Revision 0006: the documents are given empty columns for their facets. -/
def upgrade0006 (unified : Unified) : Store where
  -- The sequences continue after the highest number in the tables.
  documents := unified.documents.map facetlessDocument
  chunks := unified.chunks.map readChunk
  nextDocumentId := nextSerial (unified.documents.map DocumentRow.id)
  nextChunkId := nextSerial (unified.chunks.map ChunkRow.id)
  documentIds_fresh := by
    intro document member
    obtain ⟨row, inside, rfl⟩ := List.mem_map.mp member
    exact lt_nextSerial (List.mem_map_of_mem inside)
  documentIds_nodup := by
    rw [List.map_map]
    exact unified.documentIds_nodup
  sourceRefs_nodup := by
    rw [List.map_map]
    exact unified.sourceRefs_nodup
  chunkIds_fresh := by
    intro chunk member
    obtain ⟨row, inside, rfl⟩ := List.mem_map.mp member
    exact lt_nextSerial (List.mem_map_of_mem inside)
  chunkIds_nodup := by
    rw [List.map_map]
    exact unified.chunkIds_nodup
  pages_nodup := by
    rw [List.map_map]
    exact unified.chunkKeys_nodup
  chunks_owned := by
    intro chunk member
    obtain ⟨row, inside, rfl⟩ := List.mem_map.mp member
    rw [List.map_map]
    exact unified.chunks_owned row inside

/-- Revision 0004 taken back: drop the unified tables. -/
def downgrade0004 (tables : Legacy × Unified) : Legacy := tables.1

/-- Take the revisions back down to the legacy tables. -/
def rollBack (planner : Planner) (stamps : Stamps) (store : Store) : Except Violation Legacy := do
  -- The migrations are undone in the reverse order.
  let tables ← downgrade0005 planner (downgrade0006 stamps store)
  return downgrade0004 tables

/-- Redo the revisions on the legacy tables. -/
def redeploy (planner : Planner) (legacy : Legacy) : Except Violation Store := do
  -- The migrations are applied in order again.
  let unified ← upgrade0004 planner legacy
  return upgrade0006 (upgrade0005 (legacy, unified))

/-- Every chunk of a PDF has an image, no anchors, and a link to its page. -/
def Unified.PagesLinked (unified : Unified) : Prop :=
  -- Every page of a manual has an image and the link that the copy would write.
  ∀ document ∈ unified.documents, document.sourceType = .pdf → ∀ chunk ∈ unified.chunks,
    chunk.documentId = document.id → ∃ pngR2Key,
      chunk = { chunk with
        pngR2Key := some pngR2Key
        anchor := none
        parentAnchor := none
        sourceUrl := document.sourceUrl ++ "#page=" ++ toString chunk.ordinal }

/-- Whether a chunk belongs to one of some documents. -/
def ChunkRow.ownedBy (documents : List DocumentRow) (chunk : ChunkRow) : Bool :=
  documents.any fun document => document.id = chunk.documentId

/-- The documents of PDFs with their chunks. -/
def Unified.pdfPart (unified : Unified) : Unified :=
  -- A part of the rows keeps every constraint of the tables.
  let documents := unified.documents.filter fun document => document.sourceType = .pdf
  { documents
    chunks := unified.chunks.filter (ChunkRow.ownedBy documents)
    documentIds_nodup := unified.documentIds_nodup.sublist (List.filter_sublist.map _)
    sourceRefs_nodup := unified.sourceRefs_nodup.sublist (List.filter_sublist.map _)
    chunkIds_nodup := unified.chunkIds_nodup.sublist (List.filter_sublist.map _)
    chunkKeys_nodup := unified.chunkKeys_nodup.sublist (List.filter_sublist.map _)
    chunks_owned := by
      intro chunk member
      obtain ⟨document, inside, owner⟩ := List.any_eq_true.mp (List.mem_filter.mp member).2
      exact List.mem_map.mpr ⟨document, inside, of_decide_eq_true owner⟩ }

/-- The page row of a chunk under its own ids. -/
def pageOf (chunk : ChunkRow) : Page where
  -- The pages of a manual all have an image, so the default is never used.
  id := chunk.id
  pdfId := chunk.documentId
  pageNo := chunk.ordinal
  text := chunk.text
  embedding := chunk.embedding
  pngR2Key := chunk.pngR2Key.getD ""
  createdAt := chunk.createdAt

/-- Unified tables seen as legacy ones under their own ids. -/
def Unified.asLegacy (unified : Unified) : Legacy where
  -- The tables of the manuals, as if they had never been copied.
  pdfs := unified.documents.map fun document => pdfRow unified.chunks document.id document
  pages := unified.chunks.map pageOf
  pdfIds_nodup := by
    rw [List.map_map]
    exact unified.documentIds_nodup
  sha256s_nodup := by
    rw [List.map_map]
    exact unified.sourceRefs_nodup
  pageIds_nodup := by
    rw [List.map_map]
    exact unified.chunkIds_nodup
  pageKeys_nodup := by
    rw [List.map_map]
    exact unified.chunkKeys_nodup
  pages_owned := by
    intro page member
    obtain ⟨chunk, inside, rfl⟩ := List.mem_map.mp member
    rw [List.map_map]
    exact unified.chunks_owned chunk inside

section Rollback

variable {unified : Unified} {document : DocumentRow} {chunk : ChunkRow}

/-- The documents of the PDF part are those of PDFs. -/
theorem Unified.mem_pdfPart :
    document ∈ unified.pdfPart.documents ↔
      document ∈ unified.documents ∧ document.sourceType = .pdf := by
  simp [Unified.pdfPart]

/-- The chunks of a document of a PDF are all in the PDF part. -/
theorem Unified.chunks_pdfPart (member : document ∈ unified.pdfPart.documents) :
    (unified.pdfPart.chunks.filter fun chunk => chunk.documentId = document.id) =
      unified.chunks.filter fun chunk => chunk.documentId = document.id := by
  show (unified.chunks.filter (ChunkRow.ownedBy unified.pdfPart.documents)).filter _ = _
  rw [List.filter_filter]
  refine List.filter_congr fun chunk _ => ?_
  -- A chunk of the document is owned by it, and others are dropped on both sides.
  by_cases same : chunk.documentId = document.id
  · have owned : chunk.ownedBy unified.pdfPart.documents = true :=
      List.any_eq_true.mpr ⟨document, member, decide_eq_true same.symm⟩
    rw [owned, Bool.and_true]
  · simp [same]

/-- Only the PDF part of the tables is copied back. -/
theorem downgrade0005_pdfPart (planner : Planner) (unified : Unified) {legacy : Legacy}
    (restored : downgrade0005 planner unified.pdfPart = .ok (legacy, unified.pdfPart)) :
    downgrade0005 planner unified = .ok (legacy, unified) := by
  -- The downgrade reads only manuals, so the restriction changes no row it reads.
  have documents : (unified.pdfPart.documents.filter fun document => document.sourceType = .pdf) =
      unified.pdfPart.documents := by
    rw [List.filter_eq_self]
    intro document member
    exact decide_eq_true (Unified.mem_pdfPart.mp member).2
  have pdfs : insertSelect (pdfRow unified.pdfPart.chunks)
      (sortAsc DocumentRow.id unified.pdfPart.documents) =
        insertSelect (pdfRow unified.chunks)
          (sortAsc DocumentRow.id unified.pdfPart.documents) := by
    refine insertSelect_congr fun document member number => ?_
    have inside := (sortAsc_perm DocumentRow.id _).mem_iff.mp member
    simp only [pdfRow, lastOrdinal, Unified.chunks_pdfPart inside]
  -- A chunk that the restriction drops joins no manual.
  have owned : join ChunkRow.documentId DocumentRow.id unified.pdfPart.chunks
      unified.pdfPart.documents =
        join ChunkRow.documentId DocumentRow.id unified.chunks unified.pdfPart.documents := by
    refine join_filter_left fun chunk _ dropped document member same => ?_
    have kept : chunk.ownedBy unified.pdfPart.documents = true :=
      List.any_eq_true.mpr ⟨document, member, decide_eq_true same⟩
    exact Bool.false_ne_true (dropped.symm.trans kept)
  rw [downgrade0005] at restored ⊢
  simp only [documents, pdfs, owned] at restored
  obtain ⟨pages, inserted, rest⟩ := bind_eq_ok.mp restored
  obtain ⟨checked, held, same⟩ := bind_eq_ok.mp rest
  obtain ⟨rfl, -⟩ := Prod.mk.injEq .. ▸ pure_eq_ok.mp same
  refine bind_eq_ok.mpr ⟨pages, inserted, bind_eq_ok.mpr ⟨checked, held, rfl⟩⟩

/-- The PDF part of the tables has pages linked as well. -/
theorem Unified.PagesLinked.pdfPart (linked : unified.PagesLinked) : unified.pdfPart.PagesLinked :=
  fun document member kind chunk inside owner =>
    linked document (Unified.mem_pdfPart.mp member).1 kind chunk (List.mem_filter.mp inside).1 owner

/-- Tables of PDFs are a copy of themselves seen as legacy tables. -/
theorem Unified.asLegacy_copies (pdf : ∀ document ∈ unified.documents, document.sourceType = .pdf)
    (linked : unified.PagesLinked) :
    Copies unified.asLegacy unified.documents unified.chunks id id := by
  have documents : unified.asLegacy.pdfs.map (fun pdf => documentRow pdf.id pdf) =
      unified.documents := by
    refine (List.map_map ..).trans ((List.map_congr_left fun document member => ?_).trans
      (List.map_id _))
    -- The kind is the one column that a PDF row does not carry.
    show { document with sourceType := .pdf } = document
    rw [← pdf document member]
  have chunks : unified.asLegacy.pages.map
      (fun page => copiedChunk unified.asLegacy id page.id page) = unified.chunks := by
    refine (List.map_map ..).trans ((List.map_congr_left fun chunk member => ?_).trans
      (List.map_id _))
    obtain ⟨document, inside, owner⟩ := List.mem_map.mp (unified.chunks_owned chunk member)
    obtain ⟨pngR2Key, made⟩ := linked document inside (pdf document inside) chunk member owner.symm
    have held : pdfRow unified.chunks document.id document ∈ unified.asLegacy.pdfs :=
      List.mem_map_of_mem inside
    have key : unified.asLegacy.r2KeyOf chunk.documentId = document.sourceUrl := by
      rw [← owner]
      exact Legacy.r2KeyOf_eq held
    show copiedChunk unified.asLegacy id chunk.id (pageOf chunk) = chunk
    rw [copiedChunk]
    dsimp only [pageOf, id]
    rw [key, made]
    rfl
  exact ⟨Set.injOn_id _, Set.injOn_id _, .of_eq documents.symm, .of_eq chunks.symm⟩

end Rollback

section Redeploy

variable {origin legacy : Legacy} {unified : Unified} {back again : Int → Int}

/-- A restored page finds the storage key that the page had. -/
theorem Restores.r2KeyOf (restores : Restores origin legacy.pdfs legacy.pages back again)
    {page : Page} (member : page ∈ origin.pages) :
    legacy.r2KeyOf (back page.pdfId) = origin.r2KeyOf page.pdfId := by
  -- The PDF of the page was restored under its new id, and with its key.
  obtain ⟨pdf, inside, owner⟩ := List.mem_map.mp (origin.pages_owned page member)
  have restored : { pdf.renamed back with pageCount := lastPage origin pdf.id } ∈ legacy.pdfs :=
    restores.pdfs.mem_iff.mpr (List.mem_map.mpr ⟨pdf, inside, rfl⟩)
  rw [← owner, Legacy.r2KeyOf_eq inside]
  exact Legacy.r2KeyOf_eq restored

/-- What was restored is copied forth again, up to the ids of the rows. -/
theorem redeploy_of_restored (planner : Planner)
    (copies : Copies origin unified.documents unified.chunks id id)
    (restores : Restores origin legacy.pdfs legacy.pages back again) :
    ∃ store rename renumber, redeploy planner legacy = .ok store ∧
      Set.InjOn rename {id | id ∈ unified.documents.map DocumentRow.id} ∧
      Set.InjOn renumber {id | id ∈ unified.chunks.map ChunkRow.id} ∧
      store.documents.Perm (unified.documents.map fun document =>
        facetlessDocument { document with id := rename document.id }) ∧
      store.chunks.Perm (unified.chunks.map fun chunk => readChunk
        { chunk with id := renumber chunk.id, documentId := rename chunk.documentId }) := by
  -- The two copies compose, and so do their renamings.
  obtain ⟨next, rename, renumber, upgraded, copied⟩ := upgrade0004_copies planner legacy
  have documentIds : (unified.documents.map DocumentRow.id).Perm (origin.pdfs.map Pdf.id) :=
    map_of_copies DocumentRow.id copies.documents
  have chunkIds : (unified.chunks.map ChunkRow.id).Perm (origin.pages.map Page.id) :=
    map_of_copies ChunkRow.id copies.chunks
  -- A renaming of a renaming keeps the numbers apart.
  have renamed : Set.InjOn (rename ∘ back) {id | id ∈ origin.pdfs.map Pdf.id} :=
    injOn_comp_of_copies restores.pdfs (fun _ => rfl) restores.rename_injOn copied.rename_injOn
  have renumbered : Set.InjOn (renumber ∘ again) {id | id ∈ origin.pages.map Page.id} :=
    injOn_comp_of_copies restores.pages (fun _ => rfl) restores.renumber_injOn
      copied.renumber_injOn
  refine ⟨upgrade0006 next, rename ∘ back, renumber ∘ again, ?_, ?_, ?_, ?_, ?_⟩
  · rw [redeploy, upgraded]
    rfl
  · exact renamed.mono fun _ member => documentIds.mem_iff.mp member
  · exact renumbered.mono fun _ member => chunkIds.mem_iff.mp member
  · have forth := (copied.documents.trans (map_of_copies _ restores.pdfs)).map facetlessDocument
    have here := map_of_copies (fun document =>
      facetlessDocument { document with id := (rename ∘ back) document.id }) copies.documents
    rw [List.map_map] at forth
    exact forth.trans here.symm
  · have forth := (copied.chunks.trans (map_of_copies _ restores.pages)).map readChunk
    have here := map_of_copies (fun chunk => readChunk
      { chunk with
        id := (renumber ∘ again) chunk.id
        documentId := (rename ∘ back) chunk.documentId }) copies.chunks
    rw [List.map_map] at forth
    refine forth.trans ((List.Perm.of_eq (List.map_congr_left fun page member => ?_)).trans
      here.symm)
    -- The link of the page comes from the key of its file.
    have key := restores.r2KeyOf member
    show readChunk (copiedChunk legacy rename (renumber (again page.id))
      (page.renamed back again)) = _
    simp only [copiedChunk, Page.renamed, key]
    rfl

end Redeploy

/-- The documents of PDFs. -/
def manuals (store : Store) : List IndexedDocument :=
  store.documents.filter fun document => document.sourceType = .pdf

/-- The chunks of the documents of PDFs. -/
def manualPages (store : Store) : List Chunk :=
  store.chunks.filter fun chunk =>
    (manuals store).any fun document => document.id = chunk.documentId

/-- A store holds the documents of another store's PDFs and their chunks under other ids. -/
structure Recovers (store recovered : Store) (rename renumber : Int → Int) : Prop where
  rename_injOn : Set.InjOn rename {id | id ∈ (manuals store).map IndexedDocument.id}
  renumber_injOn : Set.InjOn renumber {id | id ∈ (manualPages store).map Chunk.id}
  documents : recovered.documents.Perm ((manuals store).map fun document =>
    { document with id := rename document.id, productFamily := none, brand := none })
  chunks : recovered.chunks.Perm ((manualPages store).map fun chunk =>
    { chunk with id := renumber chunk.id, documentId := rename chunk.documentId })

section Stores

variable {stamps : Stamps} {store : Store}

/-- The documents that are copied back are the manuals. -/
theorem documents_pdfPart_downgrade0006 :
    (downgrade0006 stamps store).pdfPart.documents =
      (manuals store).map (plainDocument stamps) := by
  show (store.documents.map (plainDocument stamps)).filter _ = _
  rw [List.filter_map]
  rfl

/-- The chunks that are copied back are the pages of the manuals. -/
theorem chunks_pdfPart_downgrade0006 :
    (downgrade0006 stamps store).pdfPart.chunks = (manualPages store).map (plainChunk stamps) := by
  -- The image of a chunk is owned by the image of its document.
  show (store.chunks.map (plainChunk stamps)).filter
    (ChunkRow.ownedBy (downgrade0006 stamps store).pdfPart.documents) = _
  rw [List.filter_map, documents_pdfPart_downgrade0006]
  refine congrArg (List.map _) (List.filter_congr fun chunk _ => ?_)
  exact List.any_map

/-- The pages of well-made manuals are linked. -/
theorem pagesLinked_downgrade0006 {library : PdfLibrary} {registry : Registry}
    (made : Database.WellMade library ⟨store, registry⟩) (stamps : Stamps) :
    (downgrade0006 stamps store).PagesLinked := by
  -- A well made manual holds pages as the pipeline has built them.
  intro row member kind chunkRow inside owner
  obtain ⟨document, stored, rfl⟩ := List.mem_map.mp member
  obtain ⟨chunk, held, rfl⟩ := List.mem_map.mp inside
  have manual := (made document stored).pdf kind
  have values : chunk.values ∈ store.chunksOf document.id :=
    List.mem_map_of_mem (List.mem_filter.mpr ⟨held, decide_eq_true owner⟩)
  obtain ⟨-, pageNo, -, made⟩ := manual.pages chunk.values values
  refine ⟨pngKey document.sourceRef pageNo, ?_⟩
  dsimp only [plainChunk, plainDocument]
  rw [manual.sourceUrl, made]
  rfl

/-- Taking the revisions back and redoing them recovers well-made manuals. -/
theorem recovers_of_wellMade {library : PdfLibrary} {registry : Registry}
    (made : Database.WellMade library ⟨store, registry⟩) (stamps : Stamps)
    (first second : Planner) :
    ∃ legacy recovered rename renumber, rollBack first stamps store = .ok legacy ∧
      redeploy second legacy = .ok recovered ∧ Recovers store recovered rename renumber := by
  -- The manuals alone look like the copy of legacy tables.
  have linked := (pagesLinked_downgrade0006 made stamps).pdfPart
  have copies := Unified.asLegacy_copies
    (fun document member => (Unified.mem_pdfPart.mp member).2) linked
  -- So undoing the copy and doing it again restores them up to the numbers.
  obtain ⟨legacy, back, again, restored, restores⟩ := downgrade0005_restores first copies
  obtain ⟨recovered, rename, renumber, redeployed, renamed, renumbered, documents, chunks⟩ :=
    redeploy_of_restored second copies restores
  rw [documents_pdfPart_downgrade0006, List.map_map] at renamed documents
  rw [chunks_pdfPart_downgrade0006, List.map_map] at renumbered chunks
  refine ⟨legacy, recovered, rename, renumber, ?_, redeployed, renamed, renumbered, documents,
    chunks⟩
  rw [rollBack, downgrade0005_pdfPart first _ restored]
  rfl

end Stores

/-- A rollback of whatever the commands stored keeps the manuals, and a backfill their facets. -/
theorem manuals_survive_rollback (library : PdfLibrary) (history : List Command) (stamps : Stamps)
    (first second : Planner) (order : SetOrder) (collation : String → String → Bool) :
    let store := (databaseAfter library history).store
    ∃ legacy recovered rename renumber, rollBack first stamps store = .ok legacy ∧
      redeploy second legacy = .ok recovered ∧ Recovers store recovered rename renumber ∧
      ∃ filled summary, backfill order collation true recovered = .ok (filled, summary) ∧
        filled.chunks = recovered.chunks ∧
        filled.documents.Perm ((manuals store).map fun document =>
          { document.rederived order with id := rename document.id }) := by
  intro store
  obtain ⟨legacy, recovered, rename, renumber, taken, redone, recovers⟩ :=
    recovers_of_wellMade (wellMade_databaseAfter library history) stamps first second
  obtain ⟨filled, summary, done⟩ := backfill_succeeds order collation true recovered
  obtain ⟨chunks, documents⟩ := documents_backfill done
  refine ⟨legacy, recovered, rename, renumber, taken, redone, recovers, filled, summary, done,
    chunks, ?_⟩
  -- A facet is derived from the title, which the rollback has kept.
  have facets := recovers.documents.map (IndexedDocument.rederived order)
  rw [List.map_map] at facets
  rw [documents]
  exact facets

end TorqueFinder.Migrations
