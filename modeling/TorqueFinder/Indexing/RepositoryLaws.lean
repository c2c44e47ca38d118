import TorqueFinder.Indexing.Repository

/-! What the repository operations leave in the store. -/

namespace TorqueFinder

namespace Store

variable {order : SetOrder} {store next : Store} {sourceType : SourceType}
  {title sourceUrl sourceRef : String} {document : IndexedDocument} {documentId chunkId : Int}
  {values : ChunkValues} {embedding : Embedding}

/-- The chunks of a document, in the order of their ids. -/
def ownedChunks (store : Store) (documentId : Int) : List Chunk :=
  store.chunks.filter fun chunk => chunk.documentId = documentId

/-- What the chunks of a document hold, in the order of their ids. -/
def contentsOf (store : Store) (documentId : Int) : List (ChunkValues × Embedding) :=
  (store.ownedChunks documentId).map fun chunk => (chunk.values, chunk.embedding)

/-- The contents of the chunks of a document, in the order of their ids. -/
def chunksOf (store : Store) (documentId : Int) : List ChunkValues :=
  (store.chunks.filter fun chunk => chunk.documentId = documentId).map Chunk.values

/-- The contents of the chunks of the document with a dedupe key. -/
def indexedChunks (store : Store) (sourceRef : String) : List ChunkValues :=
  -- A reference without a document has no chunks.
  match store.getDocumentBySourceRef sourceRef with
  | none => []
  | some document => store.chunksOf document.id

/-- The contents of the chunks of a document, without their embeddings. -/
theorem chunksOf_eq (store : Store) (documentId : Int) :
    store.chunksOf documentId = (store.contentsOf documentId).map Prod.fst := by
  simp [chunksOf, contentsOf, ownedChunks, Function.comp_def]

/-- With the chunks of a document in the order of their ordinals, a module is read off them. -/
theorem fetchModuleText_eq {parentAnchor : String}
    (ordered : (store.chunksOf documentId).Pairwise fun first second =>
      first.ordinal ≤ second.ordinal) :
    store.fetchModuleText documentId parentAnchor =
      "\n\n".intercalate (((store.chunksOf documentId).filter fun values =>
        values.parentAnchor = some parentAnchor).map ChunkValues.text) := by
  -- The siblings stand in the table as they stand in the document.
  have siblings : (store.chunks.filter fun chunk => chunk.documentId = documentId ∧
      chunk.values.parentAnchor = some parentAnchor) =
        (store.ownedChunks documentId).filter fun chunk =>
          chunk.values.parentAnchor = some parentAnchor := by
    rw [ownedChunks, List.filter_filter]
    exact List.filter_congr fun chunk _ => by simp [Bool.and_comm]
  have inOrder : ((store.ownedChunks documentId).filter fun chunk =>
      chunk.values.parentAnchor = some parentAnchor).Pairwise fun first second =>
        first.values.ordinal ≤ second.values.ordinal :=
    (List.pairwise_map.mp ordered).filter _
  rw [fetchModuleText]
  simp only [siblings, Ranking.sortAsc_eq_self _ inOrder, chunksOf, List.filter_map, List.map_map]
  rfl

/-- A document found by its dedupe key has that key. -/
theorem sourceRef_of_found (found : store.getDocumentBySourceRef sourceRef = some document) :
    document.sourceRef = sourceRef := by
  simpa using List.find?_some found

/-- A document found by its dedupe key is a row of the table. -/
theorem mem_of_found (found : store.getDocumentBySourceRef sourceRef = some document) :
    document ∈ store.documents := List.mem_of_find?_eq_some found

/-- A dedupe key finds the row that has it. -/
theorem found_iff :
    store.getDocumentBySourceRef sourceRef = some document ↔
      document ∈ store.documents ∧ document.sourceRef = sourceRef := by
  -- Rows with one dedupe key are one row.
  rw [Store.getDocumentBySourceRef, Table.find?_key_iff store.sourceRefs_nodup sourceRef]
  · simp
  · intro other passed
    simpa using passed

/-- An accepted upsert refreshes the document with the dedupe key, or appends a new one. -/
theorem upsertDocument_cases
    (done : store.upsertDocument order sourceType title sourceUrl sourceRef =
      .ok (next, document)) :
    next.chunks = store.chunks ∧
      ((∃ existing, store.getDocumentBySourceRef sourceRef = some existing ∧
          existing.sourceType = sourceType ∧
          document = { existing with
            title, sourceUrl
            productFamily := (deriveFacet order title).1, brand := (deriveFacet order title).2 } ∧
          next.documents = store.documents.map fun row =>
            if row.sourceRef = sourceRef then document else row) ∨
        (store.getDocumentBySourceRef sourceRef = none ∧
          document =
            { id := store.nextDocumentId, sourceType, title, sourceUrl, sourceRef
              productFamily := (deriveFacet order title).1
              brand := (deriveFacet order title).2 } ∧
          next.documents = store.documents ++ [document])) := by
  unfold upsertDocument at done
  dsimp only at done
  split at done
  · rename_i existing found
    split at done
    · cases done
    rename_i sameType
    cases done
    refine ⟨rfl, .inl ⟨existing, found, not_not.mp sameType, rfl, ?_⟩⟩
    -- The row is updated by its id, which singles out the row with the dedupe key.
    refine List.map_congr_left fun row member => ?_
    by_cases same : row.sourceRef = sourceRef
    · obtain rfl : row = existing :=
        Option.some.inj ((found_iff.mpr ⟨member, same⟩).symm.trans found)
      rw [if_pos rfl, if_pos same]
    · -- Another row has another id, since the ids are distinct.
      have other : row.id ≠ existing.id := fun id =>
        same (Table.eq_of_key store.documentIds_nodup member (mem_of_found found) id ▸
          sourceRef_of_found found)
      rw [if_neg other, if_neg same]
  · -- The new row gets the next number.
    rename_i missing
    cases done
    exact ⟨rfl, .inr ⟨missing, rfl, rfl⟩⟩

/-- An upserted document has the kind it was upserted as. -/
theorem sourceType_of_upsertDocument
    (done : store.upsertDocument order sourceType title sourceUrl sourceRef =
      .ok (next, document)) : document.sourceType = sourceType := by
  -- An existing document keeps its type, and a new one gets the given type.
  obtain ⟨_, ⟨existing, _, sameType, rfl, _⟩ | ⟨_, rfl, _⟩⟩ := upsertDocument_cases done
  · exact sameType
  · rfl

/-- An upsert is refused only when it would change the kind of a document. -/
theorem upsertDocument_errors {failure : RepositoryError}
    (failed : store.upsertDocument order sourceType title sourceUrl sourceRef = .error failure) :
    ∃ existing requested, failure = .sourceTypeMismatch sourceRef existing requested := by
  -- A new document is never refused.
  unfold upsertDocument at failed
  dsimp only at failed
  split at failed
  · split at failed
    · cases failed
      exact ⟨_, _, rfl⟩
    · cases failed
  · cases failed

/-- An upsert is accepted when the document it finds, if any, has the kind already. -/
theorem upsertDocument_ok (title sourceUrl : String)
    (kept : ∀ existing, store.getDocumentBySourceRef sourceRef = some existing →
      existing.sourceType = sourceType) :
    ∃ next document,
      store.upsertDocument order sourceType title sourceUrl sourceRef = .ok (next, document) := by
  unfold upsertDocument
  dsimp only
  -- Only a document of another type is refused.
  split
  · rename_i existing found
    rw [if_neg (not_not.mpr (kept existing found))]
    exact ⟨_, _, rfl⟩
  · exact ⟨_, _, rfl⟩

/-- An upserted document is the one its dedupe key finds. -/
theorem getDocument_of_upsertDocument
    (done : store.upsertDocument order sourceType title sourceUrl sourceRef =
      .ok (next, document)) :
    next.getDocumentBySourceRef sourceRef = some document := by
  -- An existing document is refreshed in place, a new one is the last row.
  obtain ⟨_, ⟨existing, found, _, rfl, rows⟩ | ⟨_, rfl, rows⟩⟩ := upsertDocument_cases done
  · have key : existing.sourceRef = sourceRef := sourceRef_of_found found
    refine found_iff.mpr ⟨?_, key⟩
    rw [rows]
    exact List.mem_map.mpr ⟨existing, mem_of_found found, if_pos key⟩
  · refine found_iff.mpr ⟨?_, rfl⟩
    rw [rows]
    exact List.mem_append_right _ List.mem_cons_self

/-- An upsert leaves what every other dedupe key finds. -/
theorem getDocument_of_upsertDocument_ne {otherRef : String}
    (done : store.upsertDocument order sourceType title sourceUrl sourceRef =
      .ok (next, document)) (other : otherRef ≠ sourceRef) :
    next.getDocumentBySourceRef otherRef = store.getDocumentBySourceRef otherRef := by
  -- The rows with another dedupe key are the same before and after.
  refine Option.ext fun row => ?_
  simp only [found_iff, and_congr_left_iff]
  rintro rfl
  obtain ⟨_, ⟨existing, found, _, rfl, rows⟩ | ⟨_, rfl, rows⟩⟩ := upsertDocument_cases done
  · have key := sourceRef_of_found found
    rw [rows, List.mem_map]
    constructor
    · intro present
      obtain ⟨old, member, same⟩ := present
      split at same
      · exact absurd (same ▸ key : row.sourceRef = sourceRef) other
      · exact same ▸ member
    · intro member
      exact ⟨row, member, if_neg other⟩
  · rw [rows, List.mem_append, List.mem_singleton, or_iff_left]
    rintro rfl
    exact other rfl

/-- Dropping the chunks of a document leaves it none. -/
theorem ownedChunks_deleteChunks :
    (store.deleteChunks documentId).1.ownedChunks documentId = [] := by
  -- No chunk passes both filters.
  simp [ownedChunks, deleteChunks, List.filter_filter]

/-- Dropping the chunks of a document leaves those of the others. -/
theorem ownedChunks_deleteChunks_ne {other : Int} (different : other ≠ documentId) :
    (store.deleteChunks documentId).1.ownedChunks other = store.ownedChunks other := by
  -- A chunk of the other document is kept by the deletion.
  have kept : ∀ chunk : Chunk,
      (decide (chunk.documentId = other) && decide (chunk.documentId ≠ documentId)) =
        decide (chunk.documentId = other) := fun chunk => by
    by_cases owner : chunk.documentId = other
    · simp [owner, different]
    · simp [owner]
  simp only [ownedChunks, deleteChunks, List.filter_filter, kept]

/-- An inserted chunk is appended under the next id. -/
theorem insertChunk_spec
    (done : store.insertChunk documentId values embedding = .ok (next, chunkId)) :
    next.documents = store.documents ∧
      next.chunks = store.chunks ++ [{ id := chunkId, documentId, values, embedding }] := by
  -- The only success appends one row at the end.
  unfold insertChunk at done
  split at done
  · cases done
  · split at done
    · cases done
    · cases done
      exact ⟨rfl, rfl⟩

/-- A chunk is accepted when its document exists and has no chunk at its ordinal. -/
theorem insertChunk_ok (owner : documentId ∈ store.documents.map IndexedDocument.id)
    (free : values.ordinal ∉ (store.contentsOf documentId).map fun content => content.1.ordinal) :
    ∃ next chunkId, store.insertChunk documentId values embedding = .ok (next, chunkId) := by
  -- A chunk on the same page would be a chunk of the document at that ordinal.
  have untaken : (documentId, values.ordinal) ∉ store.chunks.map Chunk.page := by
    intro taken
    obtain ⟨chunk, member, page⟩ := List.mem_map.mp taken
    obtain ⟨owned, ordinal⟩ := Prod.mk.inj page
    refine free (List.mem_map.mpr ⟨(chunk.values, chunk.embedding), ?_, ordinal⟩)
    exact List.mem_map.mpr ⟨chunk, List.mem_filter.mpr ⟨member, by simpa using owned⟩, rfl⟩
  simp [insertChunk, owner, untaken]

/-- An inserted chunk is the last one of its document. -/
theorem contentsOf_insertChunk
    (done : store.insertChunk documentId values embedding = .ok (next, chunkId)) :
    next.contentsOf documentId = store.contentsOf documentId ++ [(values, embedding)] := by
  -- The new chunk is appended.
  simp [contentsOf, ownedChunks, (insertChunk_spec done).2]

/-- An inserted chunk is none of another document. -/
theorem ownedChunks_insertChunk_ne {other : Int}
    (done : store.insertChunk documentId values embedding = .ok (next, chunkId))
    (different : other ≠ documentId) : next.ownedChunks other = store.ownedChunks other := by
  -- The new chunk is dropped by the filter.
  simp [ownedChunks, (insertChunk_spec done).2, different.symm]

end Store

end TorqueFinder
