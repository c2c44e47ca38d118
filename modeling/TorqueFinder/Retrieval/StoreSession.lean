import TorqueFinder.Retrieval.HybridSearchLaws

/-! Sessions that read a store, and the rows a search gets from them. -/

namespace TorqueFinder

open Ranking

namespace Store

/-- The row of a chunk, joined with the document that owns it. -/
def rowOfChunk (store : Store) (chunk : Chunk) : Option ChunkRow :=
  (store.documents.find? fun document => document.id = chunk.documentId).map (ChunkRow.join chunk)

/-- The join of chunks and documents. -/
def chunkRows (store : Store) : List ChunkRow := store.chunks.filterMap store.rowOfChunk

/-- The rows of the chunks with the given ids. -/
def rowsWithIds (store : Store) (chunkIds : List Int) : List ChunkRow :=
  store.chunkRows.filter fun row => row.chunkId ∈ chunkIds

/-- The rows of one document between two ordinals. -/
def rowsBetween (store : Store) (documentId low high : Int) : List ChunkRow :=
  -- Both ends of the window are included.
  store.chunkRows.filter fun row =>
    row.documentId = documentId ∧ low ≤ row.ordinal ∧ row.ordinal ≤ high

/-- A session that finds fixed channel results and reads this store. -/
def session (store : Store) (keywordHits vectorHits : Channel) : Session where
  -- The rankings of the two channels are given.
  embedQuery _ := .ok []
  keywordQuery _ topK := .ok (keywordHits.take topK)
  vectorQuery _ topK := .ok (vectorHits.take topK)
  loadChunks chunkIds := .ok (store.rowsWithIds chunkIds)
  loadDocNeighbors documentId low high := .ok (store.rowsBetween documentId low high)

variable {store : Store} {chunk : Chunk} {row : ChunkRow}

/-- The row of a chunk carries its id, its document and its ordinal. -/
theorem rowOfChunk_spec (joined : store.rowOfChunk chunk = some row) :
    row.chunkId = chunk.id ∧ row.documentId = chunk.documentId ∧
      row.ordinal = chunk.values.ordinal := by
  -- The join copies the columns of the chunk.
  obtain ⟨document, _, rfl⟩ := Option.map_eq_some_iff.mp joined
  exact ⟨rfl, rfl, rfl⟩

/-- Keys read off the rows agree with keys read off the chunks. -/
private theorem chunkRows_nodup {κ : Type*} {rowKey : ChunkRow → κ} {chunkKey : Chunk → κ}
    (agree : ∀ chunk row, store.rowOfChunk chunk = some row → rowKey row = chunkKey chunk)
    (distinct : (store.chunks.map chunkKey).Nodup) : (store.chunkRows.map rowKey).Nodup := by
  -- A pairwise fact of the chunks becomes one of the rows they are joined into.
  rw [chunkRows, List.Nodup, List.pairwise_map, List.pairwise_filterMap]
  rw [List.Nodup, List.pairwise_map] at distinct
  refine distinct.imp fun {first second} different row joined other alsoJoined => ?_
  rw [agree first row joined, agree second other alsoJoined]
  exact different

/-- The join lists no chunk twice. -/
theorem chunkRows_nodup_ids (store : Store) : (store.chunkRows.map ChunkRow.chunkId).Nodup :=
  chunkRows_nodup (fun _ _ joined => (rowOfChunk_spec joined).1) store.chunkIds_nodup

/-- The join lists no page of a document twice. -/
theorem chunkRows_nodup_pages (store : Store) :
    (store.chunkRows.map fun row => (row.documentId, row.ordinal)).Nodup :=
  -- The store admits a page number once for each document.
  chunkRows_nodup
    (fun _ _ joined => Prod.ext (rowOfChunk_spec joined).2.1 (rowOfChunk_spec joined).2.2)
    store.pages_nodup

/-- The rows between two ordinals list no chunk twice. -/
theorem rowsBetween_nodup (store : Store) (documentId low high : Int) :
    ((store.rowsBetween documentId low high).map ChunkRow.chunkId).Nodup :=
  Table.nodup_filter store.chunkRows_nodup_ids _

/-- A row carries the source type of the document that owns it. -/
theorem document_of_row (member : row ∈ store.chunkRows) :
    ∃ document ∈ store.documents,
      document.id = row.documentId ∧ document.sourceType = row.sourceType := by
  -- A row exists only because its chunk was joined with its document.
  obtain ⟨chunk, _, joined⟩ := List.mem_filterMap.mp member
  obtain ⟨document, found, rfl⟩ := Option.map_eq_some_iff.mp joined
  have owner : document.id = chunk.documentId := by simpa using List.find?_some found
  exact ⟨document, List.mem_of_find?_eq_some found, owner, rfl⟩

/-- All rows of one document carry the source type of that document. -/
theorem sourceType_of_document {document : IndexedDocument} (stored : document ∈ store.documents)
    (member : row ∈ store.chunkRows) (same : document.id = row.documentId) :
    row.sourceType = document.sourceType := by
  -- Documents have different ids, so the owner is the given document.
  obtain ⟨owner, alsoStored, id, sourceType⟩ := document_of_row member
  rw [← sourceType, Table.eq_of_key store.documentIds_nodup alsoStored stored (id.trans same.symm)]

end Store

/-- The session answers both row queries from the store, in whatever order it likes. -/
structure Session.Reads (session : Session) (store : Store) : Prop where
  chunks : ∀ chunkIds, ∃ rows, session.loadChunks chunkIds = .ok rows ∧
    rows.Perm (store.rowsWithIds chunkIds)
  neighbors : ∀ documentId low high, ∃ rows,
    session.loadDocNeighbors documentId low high = .ok rows ∧
      rows.Perm (store.rowsBetween documentId low high)

/-- The session of a store reads that store. -/
theorem Store.session_reads (store : Store) (keywordHits vectorHits : Channel) :
    (store.session keywordHits vectorHits).Reads store where
  -- The session answers with the rows in the order of the store.
  chunks _ := ⟨_, rfl, List.Perm.refl _⟩
  neighbors _ _ _ := ⟨_, rfl, List.Perm.refl _⟩

/-- The reading of a session of a store. -/
def Store.reading (store : Store) (keywordHits vectorHits : Channel) (queryText : String)
    (perChannelK : Nat) :
    Reading (store.session keywordHits vectorHits) queryText perChannelK where
  -- Every step of the reading succeeds.
  embedding := []
  keywordHits := keywordHits.take perChannelK
  vectorHits := vectorHits.take perChannelK
  rows := store.rowsWithIds ((reciprocalRankFusion
    [keywordHits.take perChannelK, vectorHits.take perChannelK]).map FusedHit.chunkId)
  embedded := rfl
  keyword_found := rfl
  vector_found := rfl
  rows_loaded _ := rfl
  rows_empty empty := by simp [empty, Store.rowsWithIds]

/-- Two manuals of different products, with one page and two pages, used to run the search. -/
def twoManuals : Store where
  -- One page of the first manual, and two adjacent pages of the second.
  documents :=
    [{ id := 1, sourceType := .pdf, title := "Pike Service Manual", sourceUrl := "pdfs/pike.pdf"
       sourceRef := "pike", productFamily := some "pike", brand := none },
     { id := 2, sourceType := .pdf, title := "Lyrik Service Manual", sourceUrl := "pdfs/lyrik.pdf"
       sourceRef := "lyrik", productFamily := some "lyrik", brand := none }]
  chunks :=
    [{ id := 1, documentId := 1
       values := { ordinal := 4, text := "Air spring volume", sourceUrl := "pdfs/pike.pdf" }
       embedding := [] },
     { id := 2, documentId := 2
       values := { ordinal := 7, text := "Air spring volume", sourceUrl := "pdfs/lyrik.pdf" }
       embedding := [] },
     { id := 3, documentId := 2
       values := { ordinal := 8, text := "Air spring assembly", sourceUrl := "pdfs/lyrik.pdf" }
       embedding := [] }]
  nextDocumentId := 3
  nextChunkId := 4

/-- A question about one of the two manuals. -/
def lyrikQuestion : String := "lyrik air spring volume"

/-- A question about neither of them. -/
def springQuestion : String := "air spring volume"

/-- The hits of a search of the two manuals, or none when it fails. -/
def twoManualsResults (queryText : String) (keywordHits vectorHits : Channel)
    (topK pageWindow maxCandidates : Nat) : List RetrievedChunk :=
  -- An error would count as an empty list.
  (hybridSearch .textual (twoManuals.session keywordHits vectorHits) queryText topK
    defaultTopKPerChannel pageWindow maxCandidates).toOption.getD []

end TorqueFinder
