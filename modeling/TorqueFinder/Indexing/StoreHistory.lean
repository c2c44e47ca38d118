import TorqueFinder.Indexing.Backfill
import TorqueFinder.Lib.History
import TorqueFinder.Lib.Transaction

/-! What the documents of a store are after any history of calls of its writers. -/

namespace TorqueFinder

open Transaction History

section Statements

variable {order : SetOrder} {store final : Store} {sourceType : SourceType}
  {title sourceUrl sourceRef : String}

/-- Stores with the same rows and the same next ids are the same. -/
theorem Store.eq_of_rows {first second : Store} (documents : first.documents = second.documents)
    (chunks : first.chunks = second.chunks)
    (nextDocumentId : first.nextDocumentId = second.nextDocumentId)
    (nextChunkId : first.nextChunkId = second.nextChunkId) : first = second := by
  -- What is left are proofs.
  cases first
  cases second
  simp_all

/-- Add a document that has the next id. -/
def Store.addDocument (store : Store) (row : IndexedDocument) (next : row.id = store.nextDocumentId)
    (fresh : ∀ document ∈ store.documents, document.sourceRef ≠ row.sourceRef) : Store :=
  -- The new number lies above all stored ones, so no key collides.
  { store with
    documents := store.documents ++ [row]
    nextDocumentId := store.nextDocumentId + 1
    documentIds_fresh := Table.forall_concat
      (fun document member => (store.documentIds_fresh document member).trans (Int.lt_succ _))
      (next ▸ Int.lt_succ _)
    documentIds_nodup := Table.nodup_concat store.documentIds_nodup
      fun document member => next ▸ (store.documentIds_fresh document member).ne
    sourceRefs_nodup := Table.nodup_concat store.sourceRefs_nodup fresh
    chunks_owned := fun chunk member => by
      rw [List.map_append]
      exact List.mem_append_left _ (store.chunks_owned chunk member) }

/-- Assign fields of a document that no constraint is about. -/
def assign (id : Int) (update : IndexedDocument → IndexedDocument)
    (keepsId : ∀ document, (update document).id = document.id)
    (keepsRef : ∀ document, (update document).sourceRef = document.sourceRef) :
    EStateM RepositoryError Store Unit :=
  -- An assignment to a mapped attribute is written by the next flush.
  modify fun store => store.updateDocument id update keepsId keepsRef

/-- The statements that refresh an existing document. -/
def refreshStatements (existing : IndexedDocument) (sourceType : SourceType)
    (title sourceUrl : String) (facet : Option String × Option String) :
    EStateM RepositoryError Store IndexedDocument := do
  -- The check comes before the first assignment.
  if existing.sourceType ≠ sourceType then
    throw (.sourceTypeMismatch existing.sourceRef existing.sourceType sourceType)
  assign existing.id (fun document => { document with title }) (fun _ => rfl) (fun _ => rfl)
  assign existing.id (fun document => { document with sourceUrl }) (fun _ => rfl) (fun _ => rfl)
  assign existing.id (fun document => { document with productFamily := facet.1 })
    (fun _ => rfl) (fun _ => rfl)
  assign existing.id (fun document => { document with brand := facet.2 })
    (fun _ => rfl) (fun _ => rfl)
  return { existing with title, sourceUrl, productFamily := facet.1, brand := facet.2 }

/-- An upsert as the statements it executes one after the other. -/
def upsertStatements (order : SetOrder) (sourceType : SourceType)
    (title sourceUrl sourceRef : String) : EStateM RepositoryError Store IndexedDocument :=
  fun store =>
    let facet := deriveFacet order title
    match found : store.getDocumentBySourceRef sourceRef with
    | some existing => refreshStatements existing sourceType title sourceUrl facet store
    -- The select has found no row with the reference, so the insert is unique.
    | none =>
      have fresh : ∀ document ∈ store.documents, document.sourceRef ≠ sourceRef := by
        simpa [Store.getDocumentBySourceRef] using found
      let row : IndexedDocument :=
        { id := store.nextDocumentId, sourceType, title, sourceUrl, sourceRef
          productFamily := facet.1, brand := facet.2 }
      .ok row (store.addDocument row rfl fresh)

/-- Updating a document twice is one update. -/
theorem Store.updateDocument_updateDocument {id : Int}
    {first second : IndexedDocument → IndexedDocument}
    {firstId : ∀ document, (first document).id = document.id}
    {firstRef : ∀ document, (first document).sourceRef = document.sourceRef}
    {secondId : ∀ document, (second document).id = document.id}
    {secondRef : ∀ document, (second document).sourceRef = document.sourceRef} :
    (store.updateDocument id first firstId firstRef).updateDocument id second secondId secondRef =
      store.updateDocument id (fun document => second (first document))
        (fun document => (secondId _).trans (firstId document))
        (fun document => (secondRef _).trans (firstRef document)) := by
  -- The first update keeps the id the second one looks for.
  refine Store.eq_of_rows ?_ rfl rfl rfl
  simp only [Store.updateDocument, List.map_map]
  refine List.map_congr_left fun row _ => ?_
  by_cases same : row.id = id
  · simp [same, firstId]
  · simp [same]

/-- An upsert of a known document is refused, or refreshes it. -/
theorem upsertDocument_of_found {existing : IndexedDocument}
    (found : store.getDocumentBySourceRef sourceRef = some existing) :
    store.upsertDocument order sourceType title sourceUrl sourceRef =
      if existing.sourceType ≠ sourceType then
        .error (.sourceTypeMismatch sourceRef existing.sourceType sourceType)
      else
        .ok (store.updateDocument existing.id
            (fun document => { document with
              title, sourceUrl
              productFamily := (deriveFacet order title).1
              brand := (deriveFacet order title).2 }) (fun _ => rfl) (fun _ => rfl),
          { existing with
            title, sourceUrl
            productFamily := (deriveFacet order title).1
            brand := (deriveFacet order title).2 }) := by
  -- The lookup inside the upsert finds the same document.
  unfold Store.upsertDocument
  dsimp only
  split
  · rename_i other alsoFound
    obtain rfl := Option.some.inj (found.symm.trans alsoFound)
    rfl
  · rename_i missing
    cases found.symm.trans missing

/-- An upsert of an unknown document adds it. -/
theorem upsertDocument_of_missing
    (fresh : ∀ document ∈ store.documents, document.sourceRef ≠ sourceRef) :
    store.upsertDocument order sourceType title sourceUrl sourceRef =
      .ok (store.addDocument
          { id := store.nextDocumentId, sourceType, title, sourceUrl, sourceRef
            productFamily := (deriveFacet order title).1
            brand := (deriveFacet order title).2 } rfl fresh,
        { id := store.nextDocumentId, sourceType, title, sourceUrl, sourceRef
          productFamily := (deriveFacet order title).1
          brand := (deriveFacet order title).2 }) := by
  -- The lookup inside the upsert would otherwise have found a document with the key.
  unfold Store.upsertDocument
  dsimp only
  split
  · rename_i existing found
    exact absurd (Store.sourceRef_of_found found) (fresh existing (Store.mem_of_found found))
  · rfl

/-- The statements of an upsert do what the upsert does in one step. -/
theorem upsertStatements_eq :
    upsertStatements order sourceType title sourceUrl sourceRef store =
      call (fun store => store.upsertDocument order sourceType title sourceUrl sourceRef)
        store := by
  -- Both look the document up first, and the assignments add up to the refreshed row.
  unfold upsertStatements call
  dsimp only
  split
  · rename_i existing found
    rw [upsertDocument_of_found found]
    obtain rfl : existing.sourceRef = sourceRef := Store.sourceRef_of_found found
    by_cases other : existing.sourceType ≠ sourceType
    · rw [if_pos other, refreshStatements, if_pos other]
      rfl
    · rw [if_neg other, refreshStatements, if_neg other]
      -- Four assignments to the same row are one.
      change EStateM.Result.ok _ ((((store.updateDocument _ _ _ _).updateDocument _ _ _ _
        ).updateDocument _ _ _ _).updateDocument _ _ _ _) = EStateM.Result.ok _ _
      simp only [Store.updateDocument_updateDocument]
  · rename_i missing
    rw [upsertDocument_of_missing]

/-- A refused upsert has written nothing. -/
theorem store_of_refused {error : RepositoryError}
    (refused : upsertStatements order sourceType title sourceUrl sourceRef store =
      .error error final) : final = store := by
  -- The one-step upsert has no store to leave behind when it fails.
  rw [upsertStatements_eq, call] at refused
  split at refused
  · cases refused
  · cases refused
    rfl

end Statements

/-- A call of a writer of the store. -/
inductive StoreCall where
  | upsertDocument (sourceType : SourceType) (title sourceUrl sourceRef : String)
  | insertChunk (documentId : Int) (values : ChunkValues) (embedding : Embedding)
  | deleteChunks (documentId : Int)
  /-- The backfill in a session of its own, as an audit or with its writes applied. -/
  | backfill (apply : Bool)

/-- What a call does to the store, which it may leave half way with an error. -/
def StoreCall.statements (order : SetOrder) (collation : String → String → Bool) :
    StoreCall → EStateM RepositoryError Store Unit
  | .upsertDocument sourceType title sourceUrl sourceRef => do
    let _ ← upsertStatements order sourceType title sourceUrl sourceRef
  | .insertChunk documentId values embedding => do
    let _ ← call fun store => store.insertChunk documentId values embedding
  | .deleteChunks documentId => modify fun store => (store.deleteChunks documentId).1
  -- The backfill is one transaction over all documents.
  | .backfill apply => do
    let _ ← call (TorqueFinder.backfill order collation apply)

/-- The store a call leaves, whether or not it failed. -/
def StoreCall.perform (order : SetOrder) (collation : String → String → Bool) (store : Store)
    (storeCall : StoreCall) : Store :=
  match storeCall.statements order collation store with
  | .ok _ next => next
  -- An exception leaves what the statements before it have written.
  | .error _ next => next

/-- The store after a history of calls on an empty one. -/
def storeAfter (order : SetOrder) (collation : String → String → Bool) (history : List StoreCall) :
    Store := after (StoreCall.perform order collation) .empty history

/-- An upsert under a dedupe key that the store accepts. -/
def acceptsUpsert (order : SetOrder) (collation : String → String → Bool) (sourceRef : String)
    (past : List StoreCall) : StoreCall → Bool
  -- A call that raises has not been accepted.
  | .upsertDocument sourceType title sourceUrl requestedRef =>
    decide (requestedRef = sourceRef) &&
      ((storeAfter order collation past).upsertDocument order sourceType title sourceUrl
        requestedRef).isOk
  | _ => false

/-- The document is the one an upsert of the history added, as far as id and type go. -/
def CreatedIn (order : SetOrder) (collation : String → String → Bool) (history : List StoreCall)
    (document : IndexedDocument) : Prop :=
  -- The row was made by an upsert that found none with its reference.
  ∃ past title sourceUrl rest created next,
    history = past ++
      .upsertDocument document.sourceType title sourceUrl document.sourceRef :: rest ∧
    (storeAfter order collation past).getDocumentBySourceRef document.sourceRef = none ∧
    upsertStatements order document.sourceType title sourceUrl document.sourceRef
      (storeAfter order collation past) = .ok created next ∧
    created.id = document.id

/-- What the history says about a document of the store. -/
structure Recorded (order : SetOrder) (collation : String → String → Bool)
    (history : List StoreCall) (document : IndexedDocument) : Prop where
  created : CreatedIn order collation history document
  refreshed : ∃ sourceType, latest (acceptsUpsert order collation document.sourceRef) history =
    some (.upsertDocument sourceType document.title document.sourceUrl document.sourceRef)
  facet : document.FacetDerived order

/-- Every document of a store is recorded in a history. -/
def AllRecorded (order : SetOrder) (collation : String → String → Bool) (history : List StoreCall)
    (store : Store) : Prop :=
  -- The invariant of the store over the history of its calls.
  ∀ document ∈ store.documents, Recorded order collation history document

section History

variable {order : SetOrder} {collation : String → String → Bool} {history : List StoreCall}
  {storeCall : StoreCall} {document : IndexedDocument} {store next : Store}

/-- One more call does not change who created a document. -/
theorem CreatedIn.concat (created : CreatedIn order collation history document) :
    CreatedIn order collation (history ++ [storeCall]) document := by
  -- A later call does not undo the creation.
  obtain ⟨past, title, sourceUrl, rest, row, middle, rfl, found⟩ := created
  exact ⟨past, title, sourceUrl, rest ++ [storeCall], row, middle, by simp, found⟩

/-- A call that accepts no upsert under the key leaves the record of a document as it is. -/
theorem Recorded.concat (recorded : Recorded order collation history document)
    (other : acceptsUpsert order collation document.sourceRef history storeCall = false) :
    Recorded order collation (history ++ [storeCall]) document where
  -- The latest accepted upsert is still the latest.
  created := recorded.created.concat
  refreshed := by
    obtain ⟨sourceType, found⟩ := recorded.refreshed
    exact ⟨sourceType, by rw [latest_concat, other]; exact found⟩
  facet := recorded.facet

/-- An accepted upsert leaves every document recorded. -/
theorem recorded_upsert {sourceType : SourceType} {title sourceUrl sourceRef : String}
    (recorded : AllRecorded order collation history (storeAfter order collation history))
    {upserted : IndexedDocument}
    (done : (storeAfter order collation history).upsertDocument order sourceType title sourceUrl
      sourceRef = .ok (next, upserted)) :
    AllRecorded order collation
      (history ++ [.upsertDocument sourceType title sourceUrl sourceRef]) next := by
  have accepted : acceptsUpsert order collation sourceRef history
      (.upsertDocument sourceType title sourceUrl sourceRef) = true := by
    simp [acceptsUpsert, done, Except.isOk, Except.toBool]
  have others : ∀ otherRef ≠ sourceRef, acceptsUpsert order collation otherRef history
      (.upsertDocument sourceType title sourceUrl sourceRef) = false := by
    intro otherRef different
    simp [acceptsUpsert, different.symm]
  -- This call is now the latest that was accepted for its reference.
  have latestCall : latest (acceptsUpsert order collation sourceRef)
      (history ++ [.upsertDocument sourceType title sourceUrl sourceRef]) =
        some (.upsertDocument sourceType title sourceUrl sourceRef) := by
    rw [latest_concat, accepted, if_pos rfl]
  intro document member
  obtain ⟨_, ⟨existing, found, sameType, rfl, rows⟩ | ⟨missing, row, rows⟩⟩ :=
    Store.upsertDocument_cases done
  · have key : existing.sourceRef = sourceRef := Store.sourceRef_of_found found
    rw [rows, List.mem_map] at member
    obtain ⟨row, inside, rfl⟩ := member
    split
    · -- The refreshed document was created by the same upsert as before.
      rename_i same
      have created : CreatedIn order collation
          (history ++ [.upsertDocument sourceType title sourceUrl sourceRef]) existing :=
        (recorded existing (Store.mem_of_found found)).created.concat
      exact ⟨created, ⟨sourceType, by rw [key]; exact latestCall⟩, rfl⟩
    · rename_i different
      exact (recorded row inside).concat (others _ different)
  · rw [rows, List.mem_append, List.mem_singleton] at member
    rcases member with inside | rfl
    · -- The others have other references.
      refine (recorded document inside).concat (others _ fun same => ?_)
      have found := Store.found_iff.mpr ⟨inside, same⟩
      cases missing.symm.trans found
    · -- The new document was created by this very call.
      have statements : upsertStatements order sourceType title sourceUrl sourceRef
          (storeAfter order collation history) = .ok document next := by
        rw [upsertStatements_eq]
        exact call_eq_ok.mpr done
      subst row
      exact ⟨⟨history, title, sourceUrl, [], _, next, rfl, missing, statements, rfl⟩,
        ⟨sourceType, latestCall⟩, rfl⟩

/-- An accepted upsert leaves the new store, a refused one the old store. -/
theorem perform_upsertDocument {sourceType : SourceType} {title sourceUrl sourceRef : String} :
    (StoreCall.upsertDocument sourceType title sourceUrl sourceRef).perform order collation store =
      match store.upsertDocument order sourceType title sourceUrl sourceRef with
      | .ok (next, _) => next
      | .error _ => store := by
  -- The statements and the function of the repository agree.
  simp only [StoreCall.perform, StoreCall.statements, bind, EStateM.bind, upsertStatements_eq, call]
  cases store.upsertDocument order sourceType title sourceUrl sourceRef with
  | ok result => rfl
  | error failure => rfl

/-- A call other than an upsert leaves the documents of a recorded store as they are. -/
theorem documents_of_other_call
    (recorded : ∀ document ∈ store.documents, document.FacetDerived order)
    (other : ∀ sourceType title sourceUrl sourceRef,
      storeCall ≠ .upsertDocument sourceType title sourceUrl sourceRef) :
    (storeCall.perform order collation store).documents = store.documents := by
  cases storeCall with
  | upsertDocument sourceType title sourceUrl sourceRef =>
    exact absurd rfl (other sourceType title sourceUrl sourceRef)
  | insertChunk documentId values embedding =>
    -- A chunk touches no document.
    simp only [StoreCall.perform, StoreCall.statements, bind, EStateM.bind, call]
    cases done : store.insertChunk documentId values embedding with
    | ok result => exact (Store.insertChunk_spec done).1
    | error failure => rfl
  | deleteChunks documentId => rfl
  | backfill apply =>
    obtain ⟨next, summary, done⟩ := backfill_succeeds order collation apply store
    simp only [StoreCall.perform, StoreCall.statements, bind, EStateM.bind, call, done]
    -- Facets that are derived already are derived to be the same.
    cases apply with
    | false => exact congrArg Store.documents (store_of_audit done)
    | true =>
      calc next.documents
          = store.documents.map (·.rederived order) := (documents_backfill done).2
        _ = store.documents.map id :=
          List.map_congr_left fun document member => rederived_eq (recorded document member)
        _ = store.documents := List.map_id _

/-- A call is an accepted upsert, or it changes no document and counts as none. -/
theorem perform_cases (storeCall : StoreCall)
    (derived : ∀ document ∈ (storeAfter order collation history).documents,
      document.FacetDerived order) :
    (∃ sourceType title sourceUrl sourceRef upserted,
      storeCall = .upsertDocument sourceType title sourceUrl sourceRef ∧
        (storeAfter order collation history).upsertDocument order sourceType title sourceUrl
            sourceRef =
          .ok (storeCall.perform order collation (storeAfter order collation history),
            upserted)) ∨
    ((storeCall.perform order collation (storeAfter order collation history)).documents =
        (storeAfter order collation history).documents ∧
      ∀ sourceRef, acceptsUpsert order collation sourceRef history storeCall = false) := by
  cases storeCall with
  | upsertDocument sourceType title sourceUrl sourceRef =>
    rw [perform_upsertDocument]
    cases done : (storeAfter order collation history).upsertDocument order sourceType title
        sourceUrl sourceRef with
    | ok result => exact .inl ⟨_, _, _, _, result.2, rfl, done⟩
    | error failure =>
      -- A refused upsert leaves the store and is not counted.
      exact .inr ⟨rfl, fun _ => by simp [acceptsUpsert, done, Except.isOk, Except.toBool]⟩
  | insertChunk documentId values embedding =>
    exact .inr ⟨documents_of_other_call derived (by simp), fun _ => rfl⟩
  | deleteChunks documentId => exact .inr ⟨rfl, fun _ => rfl⟩
  | backfill apply => exact .inr ⟨documents_of_other_call derived (by simp), fun _ => rfl⟩

/-- One more call keeps every document recorded. -/
theorem allRecorded_perform
    (recorded : AllRecorded order collation history (storeAfter order collation history)) :
    AllRecorded order collation (history ++ [storeCall])
      (storeCall.perform order collation (storeAfter order collation history)) := by
  -- Only an accepted upsert changes a document.
  rcases perform_cases storeCall fun _ member => (recorded _ member).facet with
    ⟨_, _, _, _, _, rfl, done⟩ | ⟨same, other⟩
  · exact recorded_upsert recorded done
  · intro document member
    rw [same] at member
    exact (recorded document member).concat (other _)

/-- Every document of the store after a history is recorded there. -/
theorem recorded_after (order : SetOrder) (collation : String → String → Bool)
    (history : List StoreCall) :
    AllRecorded order collation history (storeAfter order collation history) := by
  -- The invariant holds of the empty store and is kept by every call.
  refine follows (AllRecorded order collation) ?_ (fun history storeCall => ?_) history
  · intro document member
    cases member
  · exact allRecorded_perform

/-- Every dedupe key an upsert was accepted for has a document. -/
def AcceptedFound (order : SetOrder) (collation : String → String → Bool)
    (history : List StoreCall) (store : Store) : Prop :=
  -- What was once accepted can still be found.
  ∀ sourceRef, latest (acceptsUpsert order collation sourceRef) history ≠ none →
    store.getDocumentBySourceRef sourceRef ≠ none

/-- One more call keeps every accepted upsert found. -/
theorem acceptedFound_perform
    (accepted : AcceptedFound order collation history (storeAfter order collation history)) :
    AcceptedFound order collation (history ++ [storeCall])
      (storeCall.perform order collation (storeAfter order collation history)) := by
  -- Documents are never dropped, so only the upserted one has to be looked at.
  rcases perform_cases storeCall fun _ member =>
      (recorded_after order collation history _ member).facet with
    ⟨_, _, _, sourceRef, _, rfl, done⟩ | ⟨same, other⟩
  · intro otherRef counted
    by_cases own : otherRef = sourceRef
    · rw [own, Store.getDocument_of_upsertDocument done]
      simp
    · rw [Store.getDocument_of_upsertDocument_ne done own]
      refine accepted otherRef ?_
      simpa [latest_concat, acceptsUpsert, Ne.symm own] using counted
  · intro sourceRef
    rw [latest_concat, other, Store.getDocumentBySourceRef, same]
    exact accepted sourceRef

/-- Every accepted upsert still has its document after a history. -/
theorem acceptedFound_after (order : SetOrder) (collation : String → String → Bool)
    (history : List StoreCall) :
    AcceptedFound order collation history (storeAfter order collation history) := by
  -- Nothing is accepted in an empty history.
  refine follows (AcceptedFound order collation) ?_ (fun history storeCall => ?_) history
  · intro sourceRef found
    exact absurd rfl found
  · exact acceptedFound_perform

/-- After any history the documents are what its accepted upserts made them. -/
theorem storeAfter_documents (order : SetOrder) (collation : String → String → Bool)
    (history : List StoreCall) :
    ((storeAfter order collation history).documents.map IndexedDocument.sourceRef).Nodup ∧
      (∀ document ∈ (storeAfter order collation history).documents,
        CreatedIn order collation history document ∧
        (∃ sourceType, latest (acceptsUpsert order collation document.sourceRef) history =
          some (.upsertDocument sourceType document.title document.sourceUrl document.sourceRef)) ∧
        (document.productFamily, document.brand) = deriveFacet order document.title) ∧
      (∀ sourceRef, latest (acceptsUpsert order collation sourceRef) history ≠ none →
        ∃ document ∈ (storeAfter order collation history).documents,
          document.sourceRef = sourceRef) ∧
      (∀ sourceType title sourceUrl sourceRef error final,
        upsertStatements order sourceType title sourceUrl sourceRef
            (storeAfter order collation history) = .error error final →
          final = storeAfter order collation history) ∧
      ∀ apply, ((StoreCall.backfill apply).perform order collation
        (storeAfter order collation history)).documents =
          (storeAfter order collation history).documents := by
  -- The history says all of it about every state it leads to.
  have recorded := recorded_after order collation history
  refine ⟨Store.sourceRefs_nodup _, fun document member => ?_, fun sourceRef accepted => ?_, ?_,
    fun apply => ?_⟩
  · obtain ⟨created, refreshed, facet⟩ := recorded document member
    exact ⟨created, refreshed, facet⟩
  · have known := acceptedFound_after order collation history sourceRef accepted
    obtain ⟨document, found⟩ := Option.ne_none_iff_exists'.mp known
    exact ⟨document, Store.found_iff.mp found⟩
  · intro sourceType title sourceUrl sourceRef error final refused
    exact store_of_refused refused
  · exact documents_of_other_call (fun _ member => (recorded _ member).facet) (by simp)

end History

end TorqueFinder
