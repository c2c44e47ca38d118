import TorqueFinder.Discovery.Registry
import TorqueFinder.Indexing.RepositoryLaws
import TorqueFinder.Ingestion.HtmlParser
import TorqueFinder.Lib.ExceptFlow

/-! Ingestion of one publication: fetch, parse, embed, store, and flip its status. -/

namespace TorqueFinder

open ExceptFlow

/-- The tables one ingestion writes. -/
structure Database where
  store : Store
  registry : Registry

/-- The collaborators of an ingestion, where no result stands for an exception. -/
structure HtmlIngestionPipeline where
  library : PageLibrary
  order : SetOrder
  /-- The text at a URL. -/
  fetch : String → Option String
  /-- The embeddings of some texts. -/
  embedDocuments : List String → Option (List Embedding)

/-- The failure a repository error becomes. -/
def repositoryFailure (library : PageLibrary) (error : RepositoryError) : IngestionFailure :=
  match error.message library.repr with
  | some message => .ingestion ⟨message⟩
  -- A violation of a constraint is no error of the repository.
  | none => .database

/-- The row contents of a parsed chunk. -/
def HtmlChunk.values (chunk : HtmlChunk) : ChunkValues where
  -- A section of a page has no image.
  ordinal := chunk.ordinal
  text := chunk.text
  sourceUrl := chunk.sourceUrl
  pngR2Key := none
  anchor := chunk.anchor
  parentAnchor := chunk.parentAnchor

/-- Insert chunks one after the other. -/
def insertChunks (documentId : Int) :
    Store → List (ChunkValues × Embedding) → Except RepositoryError Store
  -- The first violation ends the insertion.
  | store, [] => .ok store
  | store, (values, embedding) :: rest => do
    let (store, _) ← store.insertChunk documentId values embedding
    insertChunks documentId store rest

/-- The embeddings of the parsed chunks, which are only checked for their number. -/
def embedChunks (pipeline : HtmlIngestionPipeline) (pubId : String) (chunks : List HtmlChunk) :
    Except IngestionFailure (List Embedding) :=
  match pipeline.embedDocuments (chunks.map HtmlChunk.text) with
  | none => ingestionError ("embedding failed for publication " ++ pubId)
  | some embeddings =>
    -- A batch of another length cannot be matched to the chunks.
    if embeddings.length ≠ chunks.length then
      ingestionError ("embedder returned " ++ toString embeddings.length ++ " vectors for " ++
        toString chunks.length ++ " chunks")
    else .ok embeddings

/-- What the chunks of a parsed page hold, each with the embedding at its place. -/
def ParsedPublication.contents (parsed : ParsedPublication) (embeddings : List Embedding) :
    List (ChunkValues × Embedding) :=
  -- Nothing is dropped, since the lengths are checked before.
  (parsed.chunks.map HtmlChunk.values).zip embeddings

/-- Replace the document of a publication and its chunks. -/
def storeParsed (pipeline : HtmlIngestionPipeline) (pub : RegisteredPublication)
    (parsed : ParsedPublication) (embeddings : List Embedding) (store : Store) :
    Except RepositoryError (Store × IndexedDocument) := do
  -- The title on the page is preferred to the recorded one.
  let title := if parsed.title = "" then pub.title else parsed.title
  let (store, document) ← store.upsertDocument pipeline.order .html title pub.sourceUrl pub.pubId
  -- The chunks of an earlier ingestion go first, so the ordinals are free again.
  let store ← insertChunks document.id (store.deleteChunks document.id).1
    (parsed.contents embeddings)
  return (store, document)

/-- Ingest the fetched page of a publication. -/
def ingestFetched (pipeline : HtmlIngestionPipeline) (pub : RegisteredPublication) (html : String)
    (database : Database) : Except IngestionFailure (Database × IndexedDocument) := do
  let parsed ← parsePublication pipeline.library html pub.sourceUrl
  if parsed.chunks = [] then ingestionError ("no chunks parsed from publication " ++ pub.pubId)
  else
    -- Nothing is written before the embeddings are there.
    let embeddings ← embedChunks pipeline pub.pubId parsed.chunks
    let (store, document) ← (storeParsed pipeline pub parsed embeddings database.store).mapError
      (repositoryFailure pipeline.library)
    -- The status is flipped last, whatever it has become since the page was fetched.
    let registry ← (database.registry.setStatus pub.pubId .ingested).mapError fun _ =>
      .ingestion ⟨"status flip failed for publication " ++ pub.pubId⟩
    return ({ store, registry }, document)

/-- Ingest one publication. -/
def ingestPublication (pipeline : HtmlIngestionPipeline) (pub : RegisteredPublication)
    (database : Database) : Except IngestionFailure (Database × IndexedDocument) :=
  match pipeline.fetch pub.sourceUrl with
  -- The fetcher has raised, and the error is wrapped.
  | none => ingestionError ("fetch failed for publication " ++ pub.pubId)
  | some html => ingestFetched pipeline pub html database

variable {pipeline : HtmlIngestionPipeline} {pub : RegisteredPublication} {html : String}
  {database next : Database} {document : IndexedDocument} {parsed : ParsedPublication}
  {embeddings : List Embedding} {store after : Store}

/-- The embeddings of the parsed chunks are one for each. -/
theorem embedChunks_eq_ok
    (done : embedChunks pipeline pub.pubId parsed.chunks = .ok embeddings) :
    pipeline.embedDocuments (parsed.chunks.map HtmlChunk.text) = some embeddings ∧
      embeddings.length = parsed.chunks.length := by
  -- The only success passed the check of the number.
  unfold embedChunks at done
  split at done
  · cases done
  · rename_i vectors embedded
    split at done
    · cases done
    · rename_i enough
      cases done
      exact ⟨embedded, not_not.mp enough⟩

/-- With an embedding for each chunk nothing of the parsed page is left out. -/
theorem contents_fst (enough : embeddings.length = parsed.chunks.length) :
    (parsed.contents embeddings).map Prod.fst = parsed.chunks.map HtmlChunk.values := by
  -- There are as many vectors as chunks, so none is dropped.
  rw [ParsedPublication.contents, List.map_fst_zip]
  simp [enough]

/-- With an embedding for each chunk the stored ordinals are those of the chunks. -/
theorem contents_ordinals (enough : embeddings.length = parsed.chunks.length) :
    (parsed.contents embeddings).map (fun content => content.1.ordinal) =
      (parsed.chunks.map HtmlChunk.ordinal).map Int.ofNat := by
  -- The ordinals are carried over unchanged.
  have values := congrArg (List.map ChunkValues.ordinal) (contents_fst enough)
  simpa [Function.comp_def, HtmlChunk.values] using values

/-- Inserting chunks appends them to their document and leaves the documents as they are. -/
theorem insertChunks_spec {documentId : Int} {contents : List (ChunkValues × Embedding)}
    (done : insertChunks documentId store contents = .ok after) :
    after.documents = store.documents ∧
      after.contentsOf documentId = store.contentsOf documentId ++ contents ∧
      ∀ other ≠ documentId, after.ownedChunks other = store.ownedChunks other := by
  -- Each insertion appends one chunk, and the documents stay as they are.
  induction contents generalizing store with
  | nil =>
    cases done
    simp
  | cons content rest ih =>
    obtain ⟨values, embedding⟩ := content
    obtain ⟨⟨middle, chunkId⟩, inserted, done⟩ := bind_eq_ok.mp done
    obtain ⟨documents, chunks, others⟩ := ih done
    refine ⟨documents.trans (Store.insertChunk_spec inserted).1, ?_, ?_⟩
    · rw [chunks, Store.contentsOf_insertChunk inserted, List.append_assoc,
        List.singleton_append]
    · intro other different
      rw [others other different, Store.ownedChunks_insertChunk_ne inserted different]

/-- Chunks of an existing document are accepted when no two of its chunks share an ordinal. -/
theorem insertChunks_ok {documentId : Int} {contents : List (ChunkValues × Embedding)}
    (owner : documentId ∈ store.documents.map IndexedDocument.id)
    (distinct : ((store.contentsOf documentId ++ contents).map
      fun content => content.1.ordinal).Nodup) :
    ∃ after, insertChunks documentId store contents = .ok after := by
  -- The first chunk joins those of the document, and the rest is distinct from all of them.
  induction contents generalizing store with
  | nil => exact ⟨store, rfl⟩
  | cons content rest ih =>
    obtain ⟨values, embedding⟩ := content
    have free : values.ordinal ∉
        (store.contentsOf documentId).map fun content => content.1.ordinal := by
      intro taken
      rw [List.map_append, List.nodup_append] at distinct
      exact distinct.2.2 _ taken _ List.mem_cons_self rfl
    obtain ⟨middle, chunkId, inserted⟩ :
        ∃ middle chunkId, store.insertChunk documentId values embedding = .ok (middle, chunkId) :=
      Store.insertChunk_ok owner free
    rw [← (Store.insertChunk_spec inserted).1] at owner
    rw [← List.singleton_append, ← List.append_assoc,
      ← Store.contentsOf_insertChunk inserted] at distinct
    obtain ⟨after, done⟩ := ih owner distinct
    exact ⟨after, bind_eq_ok.mpr ⟨(middle, chunkId), inserted, done⟩⟩

/-- A stored publication has its new chunks only, and every other document is as it was. -/
theorem storeParsed_spec
    (done : storeParsed pipeline pub parsed embeddings store = .ok (after, document)) :
    after.getDocumentBySourceRef pub.pubId = some document ∧
      after.contentsOf document.id = parsed.contents embeddings ∧
      (∀ other ≠ pub.pubId,
        after.getDocumentBySourceRef other = store.getDocumentBySourceRef other) ∧
      ∀ other ≠ document.id, after.ownedChunks other = store.ownedChunks other := by
  obtain ⟨⟨upserted, owner⟩, stored, done⟩ := bind_eq_ok.mp done
  obtain ⟨filled, inserted, done⟩ := bind_eq_ok.mp done
  obtain ⟨rfl, rfl⟩ := Prod.mk.injEq .. ▸ pure_eq_ok.mp done
  obtain ⟨documents, chunks, others⟩ := insertChunks_spec inserted
  -- Neither the deletion nor the insertions touch the document a key finds.
  have found : ∀ key,
      filled.getDocumentBySourceRef key = upserted.getDocumentBySourceRef key := fun key => by
    rw [Store.getDocumentBySourceRef, documents]
    rfl
  refine ⟨(found _).trans (Store.getDocument_of_upsertDocument stored), ?_, ?_, ?_⟩
  · rw [chunks, Store.contentsOf, Store.ownedChunks_deleteChunks]
    rfl
  · intro other different
    exact (found other).trans (Store.getDocument_of_upsertDocument_ne stored different)
  · intro other different
    rw [others other different, Store.ownedChunks_deleteChunks_ne different, Store.ownedChunks,
      (Store.upsertDocument_cases stored).1]
    rfl

/-- A stored publication is an HTML document. -/
theorem sourceType_of_storeParsed
    (done : storeParsed pipeline pub parsed embeddings store = .ok (after, document)) :
    document.sourceType = .html := by
  -- The pipeline upserts as HTML.
  obtain ⟨⟨upserted, owner⟩, stored, done⟩ := bind_eq_ok.mp done
  obtain ⟨filled, _, done⟩ := bind_eq_ok.mp done
  obtain ⟨rfl, rfl⟩ := Prod.mk.injEq .. ▸ pure_eq_ok.mp done
  exact Store.sourceType_of_upsertDocument stored

/-- Once the document is upserted, chunks with distinct ordinals are all accepted. -/
theorem storeParsed_of_upsert {upserted : Store} {owner : IndexedDocument}
    (numbered : (parsed.chunks.map HtmlChunk.ordinal).Nodup)
    (enough : embeddings.length = parsed.chunks.length)
    (stored : store.upsertDocument pipeline.order .html
      (if parsed.title = "" then pub.title else parsed.title) pub.sourceUrl pub.pubId =
        .ok (upserted, owner)) :
    ∃ after, insertChunks owner.id (upserted.deleteChunks owner.id).1
        (parsed.contents embeddings) = .ok after ∧
      storeParsed pipeline pub parsed embeddings store = .ok (after, owner) := by
  -- After the upsert the document exists and has no chunk left.
  have exists_owner : owner.id ∈ upserted.documents.map IndexedDocument.id :=
    List.mem_map_of_mem (Store.mem_of_found (Store.getDocument_of_upsertDocument stored))
  have distinct : (((upserted.deleteChunks owner.id).1.contentsOf owner.id ++
      parsed.contents embeddings).map fun content => content.1.ordinal).Nodup := by
    rw [Store.contentsOf, Store.ownedChunks_deleteChunks, List.map_nil, List.nil_append,
      contents_ordinals enough]
    exact numbered.map fun _ _ => Int.ofNat.inj
  obtain ⟨after, done⟩ : ∃ after, insertChunks owner.id (upserted.deleteChunks owner.id).1
      (parsed.contents embeddings) = .ok after := insertChunks_ok exists_owner distinct
  exact ⟨after, done, bind_eq_ok.mpr ⟨_, stored, bind_eq_ok.mpr ⟨after, done, rfl⟩⟩⟩

/-- Storing a parsed page is refused only when the publication is a document of another kind. -/
theorem storeParsed_errors {failure : RepositoryError}
    (numbered : (parsed.chunks.map HtmlChunk.ordinal).Nodup)
    (enough : embeddings.length = parsed.chunks.length)
    (failed : storeParsed pipeline pub parsed embeddings store = .error failure) :
    ∃ existing requested, failure = .sourceTypeMismatch pub.pubId existing requested := by
  rcases bind_eq_error.mp failed with refused | ⟨⟨upserted, owner⟩, stored, -⟩
  · exact Store.upsertDocument_errors refused
  -- Nothing behind the upsert is refused.
  obtain ⟨after, -, done⟩ := storeParsed_of_upsert numbered enough stored
  cases done.symm.trans failed

/-- A successful ingestion parsed the page, embedded and stored it, and flipped the status. -/
theorem ingestFetched_eq_ok
    (done : ingestFetched pipeline pub html database = .ok (next, document)) :
    ∃ parsed embeddings, parsePublication pipeline.library html pub.sourceUrl = .ok parsed ∧
      parsed.chunks ≠ [] ∧ embedChunks pipeline pub.pubId parsed.chunks = .ok embeddings ∧
      storeParsed pipeline pub parsed embeddings database.store = .ok (next.store, document) ∧
      database.registry.setStatus pub.pubId .ingested = .ok next.registry := by
  -- The commit point is only reached when every step succeeds.
  obtain ⟨parsed, read, done⟩ := bind_eq_ok.mp done
  split at done
  · cases done
  rename_i nonempty
  obtain ⟨embeddings, embedded, done⟩ := bind_eq_ok.mp done
  obtain ⟨⟨store, owner⟩, stored, done⟩ := bind_eq_ok.mp done
  obtain ⟨registry, flipped, done⟩ := bind_eq_ok.mp done
  obtain ⟨rfl, rfl⟩ := Prod.mk.injEq .. ▸ pure_eq_ok.mp done
  exact ⟨parsed, embeddings, read, nonempty, embedded, mapError_eq_ok.mp stored,
    mapError_eq_ok.mp flipped⟩

/-- When every step succeeds the ingestion does. -/
theorem ingestFetched_of_steps {registry : Registry}
    (read : parsePublication pipeline.library html pub.sourceUrl = .ok parsed)
    (nonempty : parsed.chunks ≠ [])
    (embedded : embedChunks pipeline pub.pubId parsed.chunks = .ok embeddings)
    (stored : storeParsed pipeline pub parsed embeddings database.store = .ok (after, document))
    (flipped : database.registry.setStatus pub.pubId .ingested = .ok registry) :
    ingestFetched pipeline pub html database =
      .ok ({ store := after, registry }, document) := by
  -- Every step succeeds, so the failures are passed by.
  simp [ingestFetched, read, nonempty, embedded, stored, flipped, bind, Except.bind,
    Except.mapError, pure, Except.pure]

/-- A successful ingestion indexes the parse of the fetched page and flips the status. -/
theorem ingestFetched_spec
    (done : ingestFetched pipeline pub html database = .ok (next, document)) :
    ∃ parsed, parsePublication pipeline.library html pub.sourceUrl = .ok parsed ∧
      next.store.indexedChunks pub.pubId = parsed.chunks.map HtmlChunk.values ∧
      database.registry.setStatus pub.pubId .ingested = .ok next.registry := by
  obtain ⟨parsed, embeddings, read, _, embedded, stored, flipped⟩ := ingestFetched_eq_ok done
  obtain ⟨found, contents, _, _⟩ := storeParsed_spec stored
  -- The stored contents are the parsed chunks beside their embeddings.
  have indexed : next.store.indexedChunks pub.pubId = parsed.chunks.map HtmlChunk.values := by
    rw [Store.indexedChunks, found]
    dsimp only
    rw [Store.chunksOf_eq, contents, contents_fst (embedChunks_eq_ok embedded).2]
  exact ⟨parsed, read, indexed, flipped⟩

end TorqueFinder
