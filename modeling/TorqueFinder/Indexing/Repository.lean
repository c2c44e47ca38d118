import TorqueFinder.Lib.StableSort
import TorqueFinder.Lib.Table
import TorqueFinder.Retrieval.ProductMatch

/-! The unified store of documents and chunks, and the repository operations on it. -/

namespace TorqueFinder

/-- A document row. -/
structure IndexedDocument where
  id : Int
  sourceType : SourceType
  title : String
  sourceUrl : String
  /-- The stable key a document is deduplicated by. -/
  sourceRef : String
  productFamily : Option String
  brand : Option String
  deriving DecidableEq

/-- The contents of a chunk beside its embedding, before the database gives it an id. -/
structure ChunkValues where
  ordinal : Int
  text : String
  sourceUrl : String
  pngR2Key : Option String := none
  anchor : Option String := none
  parentAnchor : Option String := none
  deriving DecidableEq

/-- A chunk row. -/
structure Chunk where
  id : Int
  documentId : Int
  values : ChunkValues
  embedding : Embedding
  deriving DecidableEq

/-- What the unique constraint on pages compares. -/
def Chunk.page (chunk : Chunk) : Int × Int := (chunk.documentId, chunk.values.ordinal)

/-- The two tables together with the constraints the schema puts on them. -/
structure Store where
  documents : List IndexedDocument := []
  chunks : List Chunk := []
  /-- The id the next document row is given. -/
  nextDocumentId : Int := 1
  /-- The id the next chunk row is given. -/
  nextChunkId : Int := 1
  documentIds_fresh : ∀ document ∈ documents, document.id < nextDocumentId := by simp
  documentIds_nodup : (documents.map IndexedDocument.id).Nodup := by simp
  sourceRefs_nodup : (documents.map IndexedDocument.sourceRef).Nodup := by simp
  chunkIds_fresh : ∀ chunk ∈ chunks, chunk.id < nextChunkId := by simp
  chunkIds_nodup : (chunks.map Chunk.id).Nodup := by simp
  pages_nodup : (chunks.map Chunk.page).Nodup := by simp [Chunk.page]
  chunks_owned : ∀ chunk ∈ chunks, chunk.documentId ∈ documents.map IndexedDocument.id := by simp

/-- A store without rows. -/
def Store.empty : Store := {}

/-- Why a repository call fails. -/
inductive RepositoryError where
  /-- A document would change its source type. -/
  | sourceTypeMismatch (sourceRef : String) (existing requested : SourceType)
  /-- The facet of a document that does not exist was to be written. -/
  | documentNotFound (documentId : Int)
  /-- A chunk names a document that does not exist. -/
  | foreignKeyViolation (documentId : Int)
  /-- A document already has a chunk at that ordinal. -/
  | pageViolation (documentId ordinal : Int)
  deriving DecidableEq

/-- The text of an ingestion error, given the quoting of strings; database errors have their own. -/
def RepositoryError.message (repr : String → String) : RepositoryError → Option String
  | .sourceTypeMismatch sourceRef existing requested =>
    some ("document source_ref=" ++ repr sourceRef ++ " already exists with source_type=" ++
      repr existing.value ++ "; refusing upsert as " ++ repr requested.value)
  | .documentNotFound documentId =>
    some ("document id=" ++ toString documentId ++ " not found for facet update")
  -- These are raised by the database with texts of its own.
  | .foreignKeyViolation _ => none
  | .pageViolation _ _ => none

namespace Store

/-- The document with a given dedupe key. -/
def getDocumentBySourceRef (store : Store) (sourceRef : String) : Option IndexedDocument :=
  store.documents.find? fun document => document.sourceRef = sourceRef

/-- Change the fields of one document that no constraint is about. -/
def updateDocument (store : Store) (id : Int) (update : IndexedDocument → IndexedDocument)
    (keepsId : ∀ document, (update document).id = document.id)
    (keepsRef : ∀ document, (update document).sourceRef = document.sourceRef) : Store :=
  let change := fun document : IndexedDocument =>
    if document.id = id then update document else document
  -- No id or reference changes, so the keys stay distinct.
  have ids : ∀ document, (change document).id = document.id := fun document => by
    simp only [change]; split <;> simp [keepsId]
  have refs : ∀ document, (change document).sourceRef = document.sourceRef := fun document => by
    simp only [change]; split <;> simp [keepsRef]
  { store with
    documents := store.documents.map change
    documentIds_fresh := by
      simpa [ids] using store.documentIds_fresh
    documentIds_nodup := by
      simpa [Function.comp_def, ids] using store.documentIds_nodup
    sourceRefs_nodup := by
      simpa [Function.comp_def, refs] using store.sourceRefs_nodup
    chunks_owned := by
      simpa [Function.comp_def, ids] using store.chunks_owned }

/-- Insert a document, or refresh the one that already has its dedupe key. -/
def upsertDocument (order : SetOrder) (store : Store) (sourceType : SourceType)
    (title sourceUrl sourceRef : String) : Except RepositoryError (Store × IndexedDocument) :=
  let (productFamily, brand) := deriveFacet order title
  match found : store.getDocumentBySourceRef sourceRef with
  | some existing =>
    -- A document never changes its kind.
    if existing.sourceType ≠ sourceType then
      .error (.sourceTypeMismatch sourceRef existing.sourceType sourceType)
    else
      let refresh := fun document : IndexedDocument =>
        { document with title, sourceUrl, productFamily, brand }
      .ok (store.updateDocument existing.id refresh (fun _ => rfl) (fun _ => rfl), refresh existing)
  | none =>
    -- A new document is given the next id.
    let row : IndexedDocument :=
      { id := store.nextDocumentId, sourceType, title, sourceUrl, sourceRef, productFamily, brand }
    have fresh : ∀ document ∈ store.documents, document.sourceRef ≠ sourceRef := by
      simpa [getDocumentBySourceRef] using found
    .ok
      ({ store with
          documents := store.documents ++ [row]
          nextDocumentId := store.nextDocumentId + 1
          documentIds_fresh := Table.forall_concat
            (fun document member => (store.documentIds_fresh document member).trans (by omega))
            (by simp [row])
          documentIds_nodup := Table.nodup_concat store.documentIds_nodup
            fun document member => (store.documentIds_fresh document member).ne
          sourceRefs_nodup := Table.nodup_concat store.sourceRefs_nodup fresh
          chunks_owned := fun chunk member => by
            rw [List.map_append]
            exact List.mem_append_left _ (store.chunks_owned chunk member) }, row)

/-- Write the derived facet onto an existing document. -/
def setProductFacet (store : Store) (documentId : Int) (productFamily brand : Option String) :
    Except RepositoryError Store :=
  -- An update that meets no row is an error.
  if documentId ∈ store.documents.map IndexedDocument.id then
    .ok (store.updateDocument documentId (fun document => { document with productFamily, brand })
      (fun _ => rfl) (fun _ => rfl))
  else .error (.documentNotFound documentId)

/-- Insert one chunk row and return its id. -/
def insertChunk (store : Store) (documentId : Int) (values : ChunkValues)
    (embedding : Embedding) : Except RepositoryError (Store × Int) :=
  if owned : documentId ∉ store.documents.map IndexedDocument.id then
    .error (.foreignKeyViolation documentId)
  else if taken : (documentId, values.ordinal) ∈ store.chunks.map Chunk.page then
    .error (.pageViolation documentId values.ordinal)
  else
    -- Both constraints hold, so the row is accepted under the next id.
    let row : Chunk := { id := store.nextChunkId, documentId, values, embedding }
    .ok
      ({ store with
          chunks := store.chunks ++ [row]
          nextChunkId := store.nextChunkId + 1
          chunkIds_fresh := Table.forall_concat
            (fun chunk member => (store.chunkIds_fresh chunk member).trans (by omega))
            (by simp [row])
          chunkIds_nodup := Table.nodup_concat store.chunkIds_nodup
            fun chunk member => (store.chunkIds_fresh chunk member).ne
          pages_nodup := Table.nodup_concat store.pages_nodup
            fun chunk member same => taken (List.mem_map.mpr ⟨chunk, member, same⟩)
          chunks_owned := Table.forall_concat store.chunks_owned (not_not.mp owned) }, row.id)

/-- Drop all chunks of a document and return how many there were. -/
def deleteChunks (store : Store) (documentId : Int) : Store × Nat :=
  -- Ids of dropped chunks are not given out again.
  let keep := fun chunk : Chunk => decide (chunk.documentId ≠ documentId)
  ({ store with
      chunks := store.chunks.filter keep
      chunkIds_fresh := fun chunk member =>
        store.chunkIds_fresh chunk (List.mem_of_mem_filter member)
      chunkIds_nodup := Table.nodup_filter store.chunkIds_nodup keep
      pages_nodup := Table.nodup_filter store.pages_nodup keep
      chunks_owned := fun chunk member =>
        store.chunks_owned chunk (List.mem_of_mem_filter member) },
    store.chunks.countP fun chunk => !keep chunk)

/-- The text of a module, put together from its chunks in the order of their ordinals. -/
def fetchModuleText (store : Store) (documentId : Int) (parentAnchor : String) : String :=
  -- Another document may have a module with the same anchor.
  let siblings := store.chunks.filter fun chunk =>
    chunk.documentId = documentId ∧ chunk.values.parentAnchor = some parentAnchor
  "\n\n".intercalate ((Ranking.sortAsc (fun chunk => chunk.values.ordinal) siblings).map
    fun chunk => chunk.values.text)

end Store

end TorqueFinder
