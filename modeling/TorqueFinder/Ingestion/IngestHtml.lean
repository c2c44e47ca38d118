import TorqueFinder.Ingestion.HtmlPipeline
import TorqueFinder.Lib.Transaction

/-! The command that ingests registered publications, one database session for each. -/

namespace TorqueFinder

open ExceptFlow Transaction

/-- A step of an ingestion that an exception may end. -/
inductive IngestStep where
  | parse
  | upsertDocument
  | deleteChunks
  /-- The insertion of the chunk at a place. -/
  | insertChunk (place : Nat)
  | setStatus
  | commit
  deriving DecidableEq

/-- Which steps an exception ends, and what it leaves of the uncommitted work. -/
abbrev IngestFaults := IngestStep → Option (Interruption IngestionFailure Database)

/-- A repository operation as a statement of the session. -/
def onStore {α : Type} (library : PageLibrary)
    (operation : Store → Except RepositoryError (Store × α)) :
    EStateM IngestionFailure Database α :=
  -- An error of the repository is wrapped with its message.
  call fun database => do
    let (store, value) ← (operation database.store).mapError (repositoryFailure library)
    return ({ database with store }, value)

/-- The status flip as a statement of the session. -/
def flipStatus (pubId : String) : EStateM IngestionFailure Database Unit :=
  -- The registry raises when the row has gone.
  call fun database => do
    let registry ← (database.registry.setStatus pubId .ingested).mapError fun _ =>
      .ingestion ⟨"status flip failed for publication " ++ pubId⟩
    return ({ database with registry }, ())

/-- The insertions of the chunks from a place on. -/
def insertSteps (library : PageLibrary) (faults : IngestFaults) (documentId : Int) :
    Nat → List (ChunkValues × Embedding) → EStateM IngestionFailure Database Unit
  -- Each insert is flushed, so each of them may fail.
  | _, [] => pure ()
  | place, (values, embedding) :: rest => do
    let _ ← interruptible (faults (.insertChunk place))
      (onStore library fun store => store.insertChunk documentId values embedding)
    insertSteps library faults documentId (place + 1) rest

/-- The page of a publication. -/
def fetchPage (pipeline : HtmlIngestionPipeline) (pub : RegisteredPublication) :
    Except IngestionFailure String :=
  match pipeline.fetch pub.sourceUrl with
  -- Whatever the fetcher raises is wrapped.
  | none => ingestionError ("fetch failed for publication " ++ pub.pubId)
  | some html => .ok html

/-- The ingestion of a publication as the steps it takes one after the other. -/
def ingestSteps (pipeline : HtmlIngestionPipeline) (faults : IngestFaults)
    (pub : RegisteredPublication) : EStateM IngestionFailure Database IndexedDocument := do
  let html ← compute (fetchPage pipeline pub)
  let parsed ← interruptible (faults .parse)
    (compute (parsePublication pipeline.library html pub.sourceUrl))
  if parsed.chunks = [] then
    compute (ingestionError ("no chunks parsed from publication " ++ pub.pubId))
  else
    let embeddings ← compute (embedChunks pipeline pub.pubId parsed.chunks)
    let title := if parsed.title = "" then pub.title else parsed.title
    -- From here on the session has something to roll back.
    let document ← interruptible (faults .upsertDocument) (onStore pipeline.library fun store =>
      store.upsertDocument pipeline.order .html title pub.sourceUrl pub.pubId)
    let _ ← interruptible (faults .deleteChunks) (onStore pipeline.library fun store =>
      .ok (store.deleteChunks document.id))
    insertSteps pipeline.library faults document.id 0 (parsed.contents embeddings)
    interruptible (faults .setStatus) (flipStatus pub.pubId)
    return document

/-- How the command is done with a publication. -/
inductive Handling where
  /-- The ingestion was committed. -/
  | committed (document : IndexedDocument)
  /-- The ingestion failed with the error the command reports. -/
  | rolledBack (error : IngestionError)
  /-- An exception left the command. -/
  | raised (failure : IngestionFailure)
  deriving DecidableEq

/-- What the command does about a failure. -/
def handleFailure (session : Session Database) : IngestionFailure → Database × Handling
  | .ingestion error => (session.rollback.close, .rolledBack error)
  -- Any other exception leaves the loop, and closing the session commits nothing.
  | failure => (session.close, .raised failure)

/-- Ingest one publication in a session of its own, and commit it or roll it back. -/
def runTarget (pipeline : HtmlIngestionPipeline) (faults : IngestFaults)
    (pub : RegisteredPublication) (database : Database) : Database × Handling :=
  match (Session.start database).perform (ingestSteps pipeline faults pub) with
  | (.ok document, session) =>
    match faults .commit with
    | none => (session.commit.close, .committed document)
    -- A commit that fails rolls back as well.
    | some interruption => handleFailure session interruption.failure
  -- The session closes on the way out of its block.
  | (.error failure, session) => handleFailure session failure

/-- The step belongs to an ingestion of so many chunks. -/
def IngestStep.Within (chunks : Nat) : IngestStep → Prop
  -- A failure can only meet an insert that takes place.
  | .insertChunk place => place < chunks
  | _ => True

variable {pipeline : HtmlIngestionPipeline} {faults : IngestFaults} {pub : RegisteredPublication}
  {database next : Database} {document : IndexedDocument} {library : PageLibrary}

/-- A repository operation succeeds on the database when it does on the store. -/
theorem onStore_eq_ok {α : Type} {operation : Store → Except RepositoryError (Store × α)}
    {value : α} :
    onStore library operation database = .ok value next ↔
      operation database.store = .ok (next.store, value) ∧ next.registry = database.registry := by
  -- A call that succeeds writes the store and nothing else.
  rw [onStore, call_eq_ok, ExceptFlow.bind_eq_ok]
  constructor
  · intro ended
    obtain ⟨⟨store, result⟩, done, same⟩ := ended
    cases same
    exact ⟨mapError_eq_ok.mp done, rfl⟩
  · intro both
    obtain ⟨done, same⟩ := both
    refine ⟨(next.store, value), mapError_eq_ok.mpr done, ?_⟩
    cases next
    cases same
    rfl

/-- A status flip succeeds on the database when it does on the registry. -/
theorem flipStatus_eq_ok {pubId : String} :
    flipStatus pubId database = .ok () next ↔
      database.registry.setStatus pubId .ingested = .ok next.registry ∧
        next.store = database.store := by
  -- The flip writes the registry and nothing else.
  rw [flipStatus, call_eq_ok, ExceptFlow.bind_eq_ok]
  constructor
  · intro ended
    obtain ⟨registry, done, same⟩ := ended
    cases same
    exact ⟨mapError_eq_ok.mp done, rfl⟩
  · intro both
    obtain ⟨done, same⟩ := both
    refine ⟨next.registry, mapError_eq_ok.mpr done, ?_⟩
    cases next
    cases same
    rfl

/-- Chunks that are inserted step by step are inserted, and no exception ended a step. -/
theorem insertSteps_eq_ok {documentId : Int} {place : Nat}
    {contents : List (ChunkValues × Embedding)}
    (done : insertSteps library faults documentId place contents database = .ok () next) :
    insertChunks documentId database.store contents = .ok next.store ∧
      next.registry = database.registry ∧
        ∀ step, place ≤ step → step < place + contents.length →
          faults (.insertChunk step) = none := by
  -- Every chunk is inserted at its own place.
  induction contents generalizing place database with
  | nil =>
    obtain ⟨_, rfl⟩ := Transaction.pure_eq_ok.mp done
    exact ⟨rfl, rfl, fun step low high => by simp at high; omega⟩
  | cons content rest ih =>
    obtain ⟨chunkId, middle, inserted, done⟩ := Transaction.bind_eq_ok.mp done
    obtain ⟨uninterrupted, inserted⟩ := interruptible_eq_ok.mp inserted
    obtain ⟨inserted, sameRegistry⟩ := onStore_eq_ok.mp inserted
    obtain ⟨restInserted, restRegistry, restFaults⟩ := ih done
    refine ⟨ExceptFlow.bind_eq_ok.mpr ⟨_, inserted, restInserted⟩,
      restRegistry.trans sameRegistry, fun step low high => ?_⟩
    rcases Nat.eq_or_lt_of_le low with rfl | later
    · exact uninterrupted
    · exact restFaults step later (by simp at high; omega)

/-- A page that is fetched is the one at the URL of the publication. -/
theorem fetchPage_eq_ok {html : String} (fetched : fetchPage pipeline pub = .ok html) :
    pipeline.fetch pub.sourceUrl = some html := by
  -- The body is the one that the fetcher has returned.
  unfold fetchPage at fetched
  split at fetched
  · cases fetched
  · rename_i found
    cases fetched
    exact found

/-- Steps that succeed do what the pipeline does, and no exception ended one of them. -/
theorem ingestSteps_eq_ok
    (done : ingestSteps pipeline faults pub database = .ok document next) :
    ∃ html parsed, pipeline.fetch pub.sourceUrl = some html ∧
      parsePublication pipeline.library html pub.sourceUrl = .ok parsed ∧
        ingestFetched pipeline pub html database = .ok (next, document) ∧
          ∀ step, step.Within parsed.chunks.length → step ≠ .commit → faults step = none := by
  obtain ⟨html, _, fetching, done⟩ := Transaction.bind_eq_ok.mp done
  obtain ⟨fetched, rfl⟩ := compute_eq_ok.mp fetching
  obtain ⟨parsed, _, parsing, done⟩ := Transaction.bind_eq_ok.mp done
  obtain ⟨readWhole, parsing⟩ := interruptible_eq_ok.mp parsing
  obtain ⟨read, rfl⟩ := compute_eq_ok.mp parsing
  split at done
  · cases done
  rename_i nonempty
  obtain ⟨embeddings, _, embedding, done⟩ := Transaction.bind_eq_ok.mp done
  obtain ⟨embedded, rfl⟩ := compute_eq_ok.mp embedding
  obtain ⟨owner, upserted, stored, done⟩ := Transaction.bind_eq_ok.mp done
  obtain ⟨storedWhole, stored⟩ := interruptible_eq_ok.mp stored
  obtain ⟨stored, storedRegistry⟩ := onStore_eq_ok.mp stored
  obtain ⟨count, cleared, deleted, done⟩ := Transaction.bind_eq_ok.mp done
  obtain ⟨deletedWhole, deleted⟩ := interruptible_eq_ok.mp deleted
  obtain ⟨deleted, deletedRegistry⟩ := onStore_eq_ok.mp deleted
  obtain ⟨_, filled, inserted, done⟩ := Transaction.bind_eq_ok.mp done
  obtain ⟨inserted, insertedRegistry, insertedWhole⟩ := insertSteps_eq_ok inserted
  obtain ⟨_, flipped, status, done⟩ := Transaction.bind_eq_ok.mp done
  obtain ⟨statusWhole, status⟩ := interruptible_eq_ok.mp status
  obtain ⟨rfl, rfl⟩ := Transaction.pure_eq_ok.mp done
  obtain ⟨status, sameStore⟩ := flipStatus_eq_ok.mp status
  -- The registry is first written by the flip, and the store is not written after the chunks.
  have registry : filled.registry = database.registry :=
    (insertedRegistry.trans deletedRegistry).trans storedRegistry
  refine ⟨_, parsed, fetchPage_eq_ok fetched, read, ?_, ?_⟩
  · have whole : storeParsed pipeline pub parsed embeddings database.store =
        .ok (flipped.store, owner) := by
      rw [sameStore]
      refine ExceptFlow.bind_eq_ok.mpr ⟨_, stored, ExceptFlow.bind_eq_ok.mpr ⟨_, ?_, rfl⟩⟩
      have clearedStore := congrArg Prod.fst (Except.ok.inj deleted)
      dsimp only at clearedStore ⊢
      rw [clearedStore]
      exact inserted
    exact ingestFetched_of_steps read nonempty embedded whole (registry ▸ status)
  · -- Each step was passed, so its fault did not occur.
    intro step within notCommit
    cases step with
    | parse => exact readWhole
    | upsertDocument => exact storedWhole
    | deleteChunks => exact deletedWhole
    | insertChunk place =>
      refine insertedWhole place (Nat.zero_le _) ?_
      have lengths := (embedChunks_eq_ok embedded).2
      have inside : place < parsed.chunks.length := within
      simpa [ParsedPublication.contents, lengths] using inside
    | setStatus => exact statusWhole
    | commit => exact absurd rfl notCommit

/-- No step before the database fails, and no exception ends a step on it. -/
structure StepsSucceed (pipeline : HtmlIngestionPipeline) (faults : IngestFaults)
    (pub : RegisteredPublication) (parsed : ParsedPublication) (embeddings : List Embedding) :
    Prop where
  parsed_page : ∃ html, pipeline.fetch pub.sourceUrl = some html ∧
    parsePublication pipeline.library html pub.sourceUrl = .ok parsed
  chunks_nonempty : parsed.chunks ≠ []
  embedded : pipeline.embedDocuments (parsed.chunks.map HtmlChunk.text) = some embeddings
  embedded_each : embeddings.length = parsed.chunks.length
  uninterrupted : ∀ step : IngestStep, step.Within parsed.chunks.length → faults step = none

/-- The publication is indexed as its page says, and everything else is as it was. -/
structure Replaces (pipeline : HtmlIngestionPipeline) (faults : IngestFaults)
    (pub : RegisteredPublication) (before after : Database) (document : IndexedDocument) :
    Prop where
  /-- The chunks are the parsed ones, each with the embedding at its place. -/
  contents : ∃ parsed embeddings, StepsSucceed pipeline faults pub parsed embeddings ∧
    after.store.contentsOf document.id = parsed.contents embeddings
  documents_once : (after.store.documents.filter fun row => row.sourceRef = pub.pubId) = [document]
  other_documents : ∀ other ≠ pub.pubId,
    after.store.getDocumentBySourceRef other = before.store.getDocumentBySourceRef other
  other_chunks : ∀ other ≠ document.id,
    after.store.ownedChunks other = before.store.ownedChunks other
  ingested : ∃ row, after.registry.get pub.pubId = some row ∧ row.status = .ingested

/-- An ingestion without a failing step replaces the publication. -/
theorem replaces_of_ingestSteps
    (done : ingestSteps pipeline faults pub database = .ok document next)
    (committed : faults .commit = none) :
    Replaces pipeline faults pub database next document := by
  -- The steps did what the pipeline does, whose effect on the store is known.
  obtain ⟨html, parsed, fetched, read, ingested, whole⟩ := ingestSteps_eq_ok done
  obtain ⟨sameParsed, embeddings, alsoRead, nonempty, embedded, stored, flipped⟩ :=
    ingestFetched_eq_ok ingested
  obtain rfl : parsed = sameParsed := Except.ok.inj (read.symm.trans alsoRead)
  obtain ⟨found, contents, otherDocuments, otherChunks⟩ := storeParsed_spec stored
  obtain ⟨vectors, enough⟩ := embedChunks_eq_ok embedded
  obtain ⟨row, _, flippedRow⟩ := Registry.getRow_setStatus flipped
  obtain ⟨member, key⟩ := Store.found_iff.mp found
  have uninterrupted : ∀ step : IngestStep, step.Within parsed.chunks.length →
      faults step = none := by
    intro step within
    by_cases last : step = .commit
    · exact last ▸ committed
    · exact whole step within last
  exact
    { contents := ⟨parsed, embeddings,
        ⟨⟨html, fetched, read⟩, nonempty, vectors, enough, uninterrupted⟩, contents⟩
      documents_once := by
        rw [← key]
        exact Table.filter_key next.store.sourceRefs_nodup member
      other_documents := otherDocuments
      other_chunks := otherChunks
      ingested := ⟨_, flippedRow, rfl⟩ }

/-- Chunks that can be inserted are inserted step by step when no exception ends a step. -/
theorem insertSteps_ok {documentId : Int} {place : Nat} {after : Store}
    {contents : List (ChunkValues × Embedding)}
    (inserted : insertChunks documentId database.store contents = .ok after)
    (whole : ∀ step, place ≤ step → step < place + contents.length →
      faults (.insertChunk step) = none) :
    insertSteps library faults documentId place contents database =
      .ok () { database with store := after } := by
  -- The first chunk is inserted at its place, and the rest behind it.
  induction contents generalizing place database with
  | nil =>
    cases inserted
    rfl
  | cons content rest ih =>
    obtain ⟨⟨middle, chunkId⟩, first, others⟩ := ExceptFlow.bind_eq_ok.mp inserted
    have uninterrupted : faults (.insertChunk place) = none :=
      whole place (Nat.le_refl place) (by simp)
    refine Transaction.bind_eq_ok.mpr ⟨chunkId, { database with store := middle }, ?_, ?_⟩
    · exact interruptible_eq_ok.mpr ⟨uninterrupted, onStore_eq_ok.mpr ⟨first, rfl⟩⟩
    · refine ih others fun step low high => whole step (by omega) ?_
      rw [List.length_cons]
      omega

/-- When no step fails, the ingestion of a registered publication that is no PDF succeeds. -/
theorem ingestSteps_ok {parsed : ParsedPublication} {embeddings : List Embedding}
    (succeeded : StepsSucceed pipeline faults pub parsed embeddings)
    (recorded : database.registry.get pub.pubId ≠ none)
    (kind : ∀ existing, database.store.getDocumentBySourceRef pub.pubId = some existing →
      existing.sourceType = .html) :
    ∃ document next, ingestSteps pipeline faults pub database = .ok document next := by
  obtain ⟨⟨html, fetched, read⟩, nonempty, vectors, enough, whole⟩ := succeeded
  have numbered := ordinals_nodup_of_parsePublication read
  -- The database refuses neither the document nor a chunk nor the flip.
  obtain ⟨upserted, owner, stored⟩ : ∃ upserted owner,
      database.store.upsertDocument pipeline.order .html
        (if parsed.title = "" then pub.title else parsed.title) pub.sourceUrl pub.pubId =
          .ok (upserted, owner) :=
    Store.upsertDocument_ok _ _ kind
  obtain ⟨filled, inserted, -⟩ := storeParsed_of_upsert numbered enough stored
  obtain ⟨registry, flipped⟩ : ∃ registry,
      database.registry.setStatus pub.pubId .ingested = .ok registry := by
    obtain ⟨row, found⟩ := Option.ne_none_iff_exists'.mp recorded
    have looked : database.registry.getRow pub.pubId = some row := found
    unfold Registry.setStatus
    rw [looked]
    exact ⟨_, rfl⟩
  have embedded : embedChunks pipeline pub.pubId parsed.chunks = .ok embeddings := by
    unfold embedChunks
    rw [vectors]
    exact if_neg (not_not.mpr enough)
  have count : (parsed.contents embeddings).length = parsed.chunks.length := by
    simp [ParsedPublication.contents, enough]
  -- So every step goes on to the next one.
  have fetching : compute (fetchPage pipeline pub) database = .ok html database := by
    refine compute_eq_ok.mpr ⟨?_, rfl⟩
    rw [fetchPage, fetched]
  have parsing : interruptible (faults .parse)
      (compute (parsePublication pipeline.library html pub.sourceUrl)) database =
        .ok parsed database :=
    interruptible_eq_ok.mpr ⟨whole .parse trivial, compute_eq_ok.mpr ⟨read, rfl⟩⟩
  have upserting : interruptible (faults .upsertDocument) (onStore pipeline.library fun store =>
      store.upsertDocument pipeline.order .html
        (if parsed.title = "" then pub.title else parsed.title) pub.sourceUrl pub.pubId) database =
          .ok owner { database with store := upserted } :=
    interruptible_eq_ok.mpr ⟨whole .upsertDocument trivial, onStore_eq_ok.mpr ⟨stored, rfl⟩⟩
  have clearing : interruptible (faults .deleteChunks) (onStore pipeline.library fun store =>
      .ok (store.deleteChunks owner.id)) { database with store := upserted } =
        .ok (upserted.deleteChunks owner.id).2
          { database with store := (upserted.deleteChunks owner.id).1 } :=
    interruptible_eq_ok.mpr ⟨whole .deleteChunks trivial, onStore_eq_ok.mpr ⟨rfl, rfl⟩⟩
  -- There is an insert for each chunk and none beyond.
  have inserting : insertSteps pipeline.library faults owner.id 0 (parsed.contents embeddings)
      { database with store := (upserted.deleteChunks owner.id).1 } =
        .ok () { database with store := filled } := by
    refine insertSteps_ok inserted fun step _ below => whole (.insertChunk step) ?_
    rwa [count, Nat.zero_add] at below
  have flipping : interruptible (faults .setStatus) (flipStatus pub.pubId)
      { database with store := filled } = .ok () ⟨filled, registry⟩ :=
    interruptible_eq_ok.mpr ⟨whole .setStatus trivial, flipStatus_eq_ok.mpr ⟨flipped, rfl⟩⟩
  refine ⟨owner, ⟨filled, registry⟩, ?_⟩
  refine Transaction.bind_eq_ok.mpr ⟨html, database, fetching, ?_⟩
  refine Transaction.bind_eq_ok.mpr ⟨parsed, database, parsing, ?_⟩
  rw [if_neg nonempty]
  refine Transaction.bind_eq_ok.mpr ⟨embeddings, database, compute_eq_ok.mpr ⟨embedded, rfl⟩, ?_⟩
  refine Transaction.bind_eq_ok.mpr ⟨owner, _, upserting, ?_⟩
  refine Transaction.bind_eq_ok.mpr ⟨_, _, clearing, ?_⟩
  refine Transaction.bind_eq_ok.mpr ⟨(), _, inserting, ?_⟩
  refine Transaction.bind_eq_ok.mpr ⟨(), _, flipping, ?_⟩
  exact Transaction.pure_eq_ok.mpr ⟨rfl, rfl⟩

/-- Whatever a failure was, handling it commits nothing. -/
theorem handleFailure_spec (session : Session Database) (failure : IngestionFailure) :
    (handleFailure session failure).1 = session.committed ∧
      ∀ document, (handleFailure session failure).2 ≠ .committed document := by
  -- Both kinds of failure roll the session back.
  cases failure <;> exact ⟨rfl, fun _ => by simp [handleFailure]⟩

/-- Handling a publication leaves the database, or commits a replacement of the publication. -/
theorem runTarget_cases (pipeline : HtmlIngestionPipeline) (faults : IngestFaults)
    (pub : RegisteredPublication) (database : Database) :
    ((runTarget pipeline faults pub database).1 = database ∧
      ∀ document, (runTarget pipeline faults pub database).2 ≠ .committed document) ∨
    ∃ document, (runTarget pipeline faults pub database).2 = .committed document ∧
      Replaces pipeline faults pub database (runTarget pipeline faults pub database).1
        document := by
  unfold runTarget
  -- Failing steps leave the committed state of the session, which is the old database.
  cases performed : (Session.start database).perform (ingestSteps pipeline faults pub) with
  | mk result session =>
    have kept : session.committed = database := Session.committed_of_perform performed
    have unchanged : ∀ failure, (handleFailure session failure).1 = database ∧
        ∀ document, (handleFailure session failure).2 ≠ .committed document := fun failure =>
      ⟨(handleFailure_spec session failure).1.trans kept, (handleFailure_spec session failure).2⟩
    cases result with
    | error failure => exact Or.inl (unchanged failure)
    | ok document =>
      dsimp only
      split
      · rename_i committed
        -- The commit makes the working copy of the session the database.
        have done : ingestSteps pipeline faults pub database = .ok document session.working :=
          Session.perform_eq_ok performed
        exact Or.inr ⟨document, rfl, replaces_of_ingestSteps done committed⟩
      · rename_i interruption _
        exact Or.inl (unchanged interruption.failure)

/-- A publication whose steps all succeed is committed. -/
theorem committed_of_succeed {parsed : ParsedPublication} {embeddings : List Embedding}
    (succeeded : StepsSucceed pipeline faults pub parsed embeddings)
    (recorded : database.registry.get pub.pubId ≠ none)
    (kind : ∀ existing, database.store.getDocumentBySourceRef pub.pubId = some existing →
      existing.sourceType = .html) :
    ∃ document, (runTarget pipeline faults pub database).2 = .committed document := by
  obtain ⟨document, next, done⟩ := ingestSteps_ok succeeded recorded kind
  refine ⟨document, ?_⟩
  -- The session starts on the database, and nothing ends its commit.
  unfold runTarget Session.perform Session.start
  dsimp only
  rw [done]
  dsimp only
  rw [succeeded.uninterrupted .commit trivial]

/-- Ingesting a publication again replaces it as a whole or leaves the database as it was. -/
theorem runTarget_atomic (pipeline : HtmlIngestionPipeline) (faults : IngestFaults)
    (pub : RegisteredPublication) (database : Database) :
    ((¬ ∃ parsed embeddings, StepsSucceed pipeline faults pub parsed embeddings) →
      (runTarget pipeline faults pub database).1 = database) ∧
    ((∀ document, (runTarget pipeline faults pub database).2 ≠ .committed document) →
      (runTarget pipeline faults pub database).1 = database) ∧
    (∀ document, (runTarget pipeline faults pub database).2 = .committed document →
      Replaces pipeline faults pub database (runTarget pipeline faults pub database).1
        document) ∧
    ((∃ parsed embeddings, StepsSucceed pipeline faults pub parsed embeddings) →
      database.registry.get pub.pubId ≠ none →
      (∀ existing, database.store.getDocumentBySourceRef pub.pubId = some existing →
        existing.sourceType = .html) →
      ∃ document, (runTarget pipeline faults pub database).2 = .committed document ∧
        Replaces pipeline faults pub database (runTarget pipeline faults pub database).1
          document) := by
  have replaces : ∀ document, (runTarget pipeline faults pub database).2 = .committed document →
      Replaces pipeline faults pub database (runTarget pipeline faults pub database).1
        document := by
    intro document done
    rcases runTarget_cases pipeline faults pub database with
      ⟨-, never⟩ | ⟨other, committed, replaced⟩
    · exact absurd done (never document)
    · obtain rfl : other = document := Handling.committed.inj (committed.symm.trans done)
      exact replaced
  -- Without a commit nothing is replaced.
  have unchanged : (∀ document,
      (runTarget pipeline faults pub database).2 ≠ .committed document) →
        (runTarget pipeline faults pub database).1 = database := by
    intro never
    rcases runTarget_cases pipeline faults pub database with ⟨same, -⟩ | ⟨document, committed, -⟩
    · exact same
    · exact absurd committed (never document)
  refine ⟨fun failing => unchanged fun document done => failing ?_, unchanged, replaces, ?_⟩
  · -- A replacement shows that every step succeeded.
    obtain ⟨parsed, embeddings, succeeded, -⟩ := (replaces document done).contents
    exact ⟨parsed, embeddings, succeeded⟩
  · -- If every step succeeds, so does the commit.
    intro succeed recorded kind
    obtain ⟨parsed, embeddings, succeeded⟩ := succeed
    obtain ⟨document, committed⟩ := committed_of_succeed succeeded recorded kind
    exact ⟨document, committed, replaces document committed⟩

/-- A registered publication of which nothing but its id and address matters. -/
def registered (pubId sourceUrl : String) : RegisteredPublication where
  -- No crawl has filled the other fields.
  pubId := pubId
  pubType := "UM"
  title := ""
  locale := "en-US"
  sourceUrl := sourceUrl
  series := []
  models := []
  procedures := []
  referencedByModels := []
  contentHash := ""
  status := .discovered
  discoveredAt := 0
  lastSeenAt := 0

/-- A publication with a title and one module. -/
def pikePublication : RegisteredPublication :=
  registered "6TmfV97f" "https://docs.sram.com/6TmfV97f"

/-- The data on its page. -/
def pikeData : String :=
  "\x7b\"title\": \"Pike\", \"modules\": [\x7b\"title\": \"Top cap\"\x7d]\x7d"

/-- Collaborators that find that page, and embed nothing for every text. -/
def pikePipeline : HtmlIngestionPipeline where
  -- The page has one module with a title and nothing else.
  order := .textual
  fetch _ := some ("<script id=\"manual-data\">" ++ pikeData ++ "</script>")
  embedDocuments texts := some (texts.map fun _ => [])
  library :=
    { PyJson.numericInterpreter [(pikeData, .obj [("title", .str "Pike"),
        ("modules", .arr [.obj [("title", .str "Top cap")]])])] with
      sha256Hex := id, unescape := id, repr := id }

/-- What is read off that page. -/
def pikeParsed : ParsedPublication where
  -- One chunk, which comes from the title of the module.
  title := "Pike"
  chunks := [
    { ordinal := 1, text := "Top cap", anchor := none, parentAnchor := none
      sourceUrl := "https://docs.sram.com/6TmfV97f"
      ordinal_positive := by decide, text_nonempty := by decide }]

/-- A database with the publication as it was ingested when the page had two other texts. -/
def pikeDatabase : Database where
  -- The publication has been ingested before, with two chunks.
  store :=
    { documents := [
        { id := 1, sourceType := .html, title := "Fork", sourceUrl := "", sourceRef := "6TmfV97f"
          productFamily := none, brand := none }]
      chunks := [
        { id := 1, documentId := 1, values := { ordinal := 1, text := "Fork", sourceUrl := "" }
          embedding := [] },
        { id := 2, documentId := 1, values := { ordinal := 2, text := "Seals", sourceUrl := "" }
          embedding := [] }]
      nextDocumentId := 2, nextChunkId := 3
      documentIds_fresh := by decide, documentIds_nodup := by decide
      sourceRefs_nodup := by decide, chunkIds_fresh := by decide, chunkIds_nodup := by decide
      pages_nodup := by decide, chunks_owned := by decide }
  registry := { rows := [pikePublication], pubIds_nodup := by decide }

/-- The old texts of the publication give way to the one on its page. -/
theorem runTarget_atomic_pike :
    (pikeDatabase.store.indexedChunks "6TmfV97f").map ChunkValues.text = ["Fork", "Seals"] ∧
    ∃ document,
      (runTarget pikePipeline (fun _ => none) pikePublication pikeDatabase).2 =
        .committed document ∧
      ((runTarget pikePipeline (fun _ => none) pikePublication pikeDatabase).1.store.chunksOf
        document.id).map ChunkValues.text = ["Top cap"] := by
  -- The new page has one chunk.
  have read : parsePublication pikePipeline.library
      ("<script id=\"manual-data\">" ++ pikeData ++ "</script>") pikePublication.sourceUrl =
        .ok pikeParsed := by
    decide +kernel
  have succeed : StepsSucceed pikePipeline (fun _ => none) pikePublication pikeParsed [[]] :=
    ⟨⟨_, rfl, read⟩, List.cons_ne_nil _ _, rfl, rfl, fun _ _ => rfl⟩
  obtain ⟨-, -, -, commits⟩ :=
    runTarget_atomic pikePipeline (fun _ => none) pikePublication pikeDatabase
  obtain ⟨document, committed, replaced⟩ :=
    commits ⟨pikeParsed, [[]], succeed⟩ (by decide) (by decide)
  obtain ⟨parsed, embeddings, ⟨⟨html, fetched, sameRead⟩, -, vectors, -⟩, contents⟩ :=
    replaced.contents
  -- What replaces the document is what the pipeline computes.
  obtain rfl := Option.some.inj fetched
  obtain rfl : pikeParsed = parsed := Except.ok.inj (read.symm.trans sameRead)
  obtain rfl : [[]] = embeddings := Option.some.inj vectors
  refine ⟨by decide, document, committed, ?_⟩
  rw [Store.chunksOf_eq, contents]
  rfl

end TorqueFinder
