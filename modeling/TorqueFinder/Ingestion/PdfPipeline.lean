import TorqueFinder.Domain.Errors
import TorqueFinder.Indexing.RepositoryLaws
import TorqueFinder.Lib.ExceptFlow
import TorqueFinder.Lib.PyText
import TorqueFinder.Lib.Transaction

/-! Ingestion of one PDF: hash, store, parse, embed, render and index. -/

namespace TorqueFinder

open PyText ExceptFlow Transaction

/-- The extracted text of one page, which is numbered from one. -/
structure ParsedPage where
  pageNo : Int
  text : String
  deriving DecidableEq

/-- How a step of an ingestion fails. -/
inductive PdfFailure where
  /-- The domain error the command line knows. -/
  | ingestion (error : IngestionError)
  /-- Any other exception. -/
  | other
  deriving DecidableEq

/-- A failed ingestion, with its message. -/
def pdfError {α : Type*} (message : String) : Except PdfFailure α := .error (.ingestion ⟨message⟩)

/-- Let a domain error through, and label every other exception. -/
def wrapped {α : Type*} (message : String) : Except PdfFailure α → Except PdfFailure α
  | .error .other => pdfError message
  -- An error of the ingestion passes as it is.
  | outcome => outcome

/-- The functions of the language an ingestion computes with. -/
structure PdfLibrary where
  /-- The hexadecimal SHA-256 digest of some bytes. -/
  sha256 : List UInt8 → String
  /-- `repr` of a text. -/
  repr : String → String

/-- A statement on the database that an exception may end. -/
inductive PdfStep where
  | openSession
  | getDocument
  | upsertDocument
  /-- The insertion of the chunk of a page. -/
  | insertChunk (pageNo : Nat)
  | commit
  deriving DecidableEq

/-- What one attempt to ingest a file meets on its way. -/
structure PdfAttempt where
  /-- The path as a text. -/
  path : String
  /-- The last component of the path. -/
  name : String
  isFile : Bool
  /-- The bytes of the file when they are hashed. -/
  hashed : Except PdfFailure (List UInt8)
  /-- The bytes of the file when they are read again. -/
  readBytes : Except PdfFailure (List UInt8)
  /-- Whether the asset store takes some bytes of a content type under a key. -/
  accepts : String → List UInt8 → String → Bool
  parsePdf : Except PdfFailure (List ParsedPage)
  order : SetOrder
  embedDocuments : List String → Except PdfFailure (List Embedding)
  /-- Opening the renderer. -/
  renderPages : Except PdfFailure Unit
  /-- What the renderer yields, page after page. -/
  rendered : List (Except PdfFailure (Nat × List UInt8))
  /-- Which statements an exception ends, and what it leaves of the uncommitted work. -/
  faults : PdfStep → Option (Interruption PdfFailure Store)

/-- `f"{number:04d}"`. -/
def fourDigits (number : Nat) : String :=
  -- The format pads with zeros and never cuts.
  let digits := toString number
  String.ofList (List.replicate (4 - digits.length) '0') ++ digits

/-- The key of the original file. -/
def pdfKey (sha256 : String) : String := "pdfs/" ++ sha256 ++ ".pdf"

/-- The key of the image of a page. -/
def pngKey (sha256 : String) (pageNo : Nat) : String :=
  "pages/" ++ sha256 ++ "/" ++ fourDigits pageNo ++ ".png"

/-- Store an object under a key. -/
def uploadBytes (library : PdfLibrary) (attempt : PdfAttempt) (key : String) (data : List UInt8)
    (contentType : String) : Except PdfFailure Unit :=
  -- The service decides whether it accepts an object.
  if attempt.accepts key data contentType then .ok ()
  else pdfError ("R2 upload failed for key " ++ library.repr key ++ " (" ++
    toString data.length ++ " bytes)")

/-- The text that is embedded for a page. -/
def embedInput (page : ParsedPage) : String :=
  let text := strip page.text
  -- The embedder takes no empty text.
  if text = "" then "[empty page " ++ toString page.pageNo ++ "]" else text

/-- The embeddings of the parsed pages, which are only checked for their number. -/
def embedPages (attempt : PdfAttempt) (pages : List ParsedPage) :
    Except PdfFailure (List Embedding) :=
  -- All pages are embedded in one call.
  match attempt.embedDocuments (pages.map embedInput) with
  | .error _ => pdfError ("embedding failed for " ++ attempt.path)
  | .ok embeddings =>
    if embeddings.length ≠ pages.length then
      pdfError ("embedder returned " ++ toString embeddings.length ++ " vectors for " ++
        toString pages.length ++ " pages")
    else .ok embeddings

/-- The parsed text of a page, where a later page of the same number replaces an earlier one. -/
def textByPage (pages : List ParsedPage) (pageNo : Nat) : String :=
  ((pages.reverse.find? fun page => page.pageNo = (pageNo : Int)).map ParsedPage.text).getD ""

/-- The embedding of a page, when it was parsed. -/
def embeddingByPage (pages : List ParsedPage) (embeddings : List Embedding) (pageNo : Nat) :
    Option Embedding :=
  -- The dictionary keeps the last vector of a page number.
  ((pages.zip embeddings).reverse.find? fun entry =>
    entry.1.pageNo = (pageNo : Int)).map Prod.snd

/-- The row contents of a rendered page. -/
def pageValues (sha256 : String) (pages : List ParsedPage) (pageNo : Nat) : ChunkValues where
  -- The link opens the manual at the page.
  ordinal := pageNo
  text := textByPage pages pageNo
  sourceUrl := pdfKey sha256 ++ "#page=" ++ toString pageNo
  pngR2Key := some (pngKey sha256 pageNo)

/-- A repository operation as a statement of the session. -/
def onPdfStore {α : Type} (library : PdfLibrary)
    (operation : Store → Except RepositoryError (Store × α)) : EStateM PdfFailure Store α :=
  call fun store => (operation store).mapError fun error =>
    match error.message library.repr with
    | some message => .ingestion ⟨message⟩
    -- A violation of the database is an exception of another library.
    | none => .other

/-- Upload and index the pages that are still to be rendered. -/
def renderAndPersist (library : PdfLibrary) (attempt : PdfAttempt) (documentId : Int)
    (sha256 : String) (pages : List ParsedPage) (embeddings : List Embedding) :
    List (Except PdfFailure (Nat × List UInt8)) → EStateM PdfFailure Store Unit
  | [] => pure ()
  | next :: rest => do
    let page ← compute (wrapped ("render failed for " ++ attempt.path) next)
    match embeddingByPage pages embeddings page.1 with
    -- A page without parsed text is skipped.
    | none => renderAndPersist library attempt documentId sha256 pages embeddings rest
    | some embedding => do
      compute (uploadBytes library attempt (pngKey sha256 page.1) page.2 "image/png")
      let _ ← interruptible (attempt.faults (.insertChunk page.1))
        (onPdfStore library fun store =>
          store.insertChunk documentId (pageValues sha256 pages page.1) embedding)
      renderAndPersist library attempt documentId sha256 pages embeddings rest

/-- Store, parse, embed, render and index a file that is not indexed yet. -/
def ingestNew (library : PdfLibrary) (attempt : PdfAttempt) (sha256 : String) :
    EStateM PdfFailure Store IndexedDocument := do
  -- The file is uploaded before it is parsed.
  let pdfBytes ← compute attempt.readBytes
  compute (uploadBytes library attempt (pdfKey sha256) pdfBytes "application/pdf")
  let pages ← compute (wrapped ("parsing failed for " ++ attempt.path) attempt.parsePdf)
  if pages = [] then compute (pdfError ("no pages parsed from " ++ attempt.path))
  else
    let document ← interruptible (attempt.faults .upsertDocument) (onPdfStore library fun store =>
      store.upsertDocument attempt.order .pdf attempt.name (pdfKey sha256) sha256)
    let embeddings ← compute (embedPages attempt pages)
    compute (wrapped ("render init failed for " ++ attempt.path) attempt.renderPages)
    renderAndPersist library attempt document.id sha256 pages embeddings attempt.rendered
    return document

/-- Ingest one PDF, or return the document it already is. -/
def ingestPdf (library : PdfLibrary) (attempt : PdfAttempt) :
    EStateM PdfFailure Store IndexedDocument := do
  if attempt.isFile = false then compute (pdfError ("PDF not found: " ++ attempt.path))
  else
    let bytes ← compute attempt.hashed
    let existing ← interruptible (attempt.faults .getDocument)
      (call fun store => .ok (store, store.getDocumentBySourceRef (library.sha256 bytes)))
    match existing with
    -- A present document is taken to be complete.
    | some document => return document
    | none => ingestNew library attempt (library.sha256 bytes)

/-- The contents of the rendered pages that were parsed, each with the embedding of its text. -/
def indexedPages (sha256 : String) (pages : List ParsedPage) (embeddings : List Embedding)
    (rendered : List (Nat × List UInt8)) : List (ChunkValues × Embedding) :=
  -- The rendered pages decide, and one without a vector is skipped.
  rendered.filterMap fun page =>
    (embeddingByPage pages embeddings page.1).map fun embedding =>
      (pageValues sha256 pages page.1, embedding)

/-- The pages of an attempt that renders all of them, embeds their texts and stores their images. -/
structure CompletePages (attempt : PdfAttempt) (sha256 : String) (pages : List ParsedPage)
    (embeddings : List Embedding) (rendered : List (Nat × List UInt8)) : Prop where
  rendered_all : attempt.rendered = rendered.map .ok
  images_stored : ∀ page ∈ rendered, embeddingByPage pages embeddings page.1 ≠ none →
    attempt.accepts (pngKey sha256 page.1) page.2 "image/png" = true
  inserts_uninterrupted : ∀ page ∈ rendered, embeddingByPage pages embeddings page.1 ≠ none →
    attempt.faults (.insertChunk page.1) = none

/-- An attempt of which no step on the way to the commit fails, and the contents it indexes. -/
structure CompleteIngest (library : PdfLibrary) (attempt : PdfAttempt) (sha256 : String)
    (contents : List (ChunkValues × Embedding)) : Prop where
  is_file : attempt.isFile = true
  hashed : ∃ bytes, attempt.hashed = .ok bytes ∧ library.sha256 bytes = sha256
  file_stored : ∃ bytes, attempt.readBytes = .ok bytes ∧
    attempt.accepts (pdfKey sha256) bytes "application/pdf" = true
  opened : attempt.renderPages = .ok ()
  pages_indexed : ∃ pages embeddings rendered, attempt.parsePdf = .ok pages ∧ pages ≠ [] ∧
    attempt.embedDocuments (pages.map embedInput) = .ok embeddings ∧
      embeddings.length = pages.length ∧
        CompletePages attempt sha256 pages embeddings rendered ∧
          contents = indexedPages sha256 pages embeddings rendered
  uninterrupted : attempt.faults .getDocument = none ∧ attempt.faults .upsertDocument = none

/-- A complete attempt added its document with its chunks, and nothing else changed. -/
structure AddsDocument (library : PdfLibrary) (attempt : PdfAttempt) (before after : Store)
    (document : IndexedDocument) : Prop where
  row : document =
    { id := before.nextDocumentId, sourceType := .pdf, title := attempt.name
      sourceUrl := pdfKey document.sourceRef, sourceRef := document.sourceRef
      productFamily := (deriveFacet attempt.order attempt.name).1
      brand := (deriveFacet attempt.order attempt.name).2 }
  new : before.getDocumentBySourceRef document.sourceRef = none
  documents : after.documents = before.documents ++ [document]
  other_chunks : ∀ other ≠ document.id, after.ownedChunks other = before.ownedChunks other
  complete : CompleteIngest library attempt document.sourceRef (after.contentsOf document.id)

variable {library : PdfLibrary} {attempt : PdfAttempt} {sha256 : String} {store next : Store}
  {pages : List ParsedPage} {embeddings : List Embedding} {document : IndexedDocument}

/-- Labelling exceptions changes nothing about success. -/
theorem wrapped_eq_ok {α : Type*} {message : String} {outcome : Except PdfFailure α} {value : α} :
    wrapped message outcome = .ok value ↔ outcome = .ok value := by
  -- Wrapping changes failures only.
  cases outcome with
  | ok result => simp [wrapped]
  | error failure => cases failure <;> simp [wrapped, pdfError]

/-- An object is stored when the asset store takes it. -/
theorem uploadBytes_eq_ok {key contentType : String} {data : List UInt8} :
    uploadBytes library attempt key data contentType = .ok () ↔
      attempt.accepts key data contentType = true := by
  -- A refused upload is the only failure.
  unfold uploadBytes
  split
  · rename_i accepted
    simp [accepted]
  · rename_i refused
    simp [refused, pdfError]

/-- A statement on the store succeeds when the operation does. -/
theorem onPdfStore_eq_ok {α : Type} {operation : Store → Except RepositoryError (Store × α)}
    {value : α} :
    onPdfStore library operation store = .ok value next ↔ operation store = .ok (next, value) := by
  -- Wrapping the error changes no result.
  rw [onPdfStore, call_eq_ok, mapError_eq_ok]

/-- The embeddings of the parsed pages are one for each. -/
theorem embedPages_eq_ok (done : embedPages attempt pages = .ok embeddings) :
    attempt.embedDocuments (pages.map embedInput) = .ok embeddings ∧
      embeddings.length = pages.length := by
  -- Both ways to fail are labelled.
  unfold embedPages at done
  split at done
  · cases done
  · rename_i vectors embedded
    split at done
    · cases done
    · rename_i enough
      cases done
      exact ⟨embedded, not_not.mp enough⟩

/-- Pages that are rendered and indexed are appended to their document one by one. -/
theorem renderAndPersist_eq_ok {documentId : Int}
    {rendering : List (Except PdfFailure (Nat × List UInt8))}
    (done : renderAndPersist library attempt documentId sha256 pages embeddings rendering store =
      .ok () next) :
    ∃ rendered, rendering = rendered.map .ok ∧
      (∀ page ∈ rendered, embeddingByPage pages embeddings page.1 ≠ none →
        attempt.accepts (pngKey sha256 page.1) page.2 "image/png" = true ∧
          attempt.faults (.insertChunk page.1) = none) ∧
      next.documents = store.documents ∧
      next.contentsOf documentId =
        store.contentsOf documentId ++ indexedPages sha256 pages embeddings rendered ∧
      ∀ other ≠ documentId, next.ownedChunks other = store.ownedChunks other := by
  -- A page without an embedding leaves the store, and any other page adds one chunk.
  induction rendering generalizing store with
  | nil =>
    obtain ⟨_, rfl⟩ := Transaction.pure_eq_ok.mp done
    exact ⟨[], rfl, by simp, rfl, by simp [indexedPages], fun _ _ => rfl⟩
  | cons first rest ih =>
    obtain ⟨page, _, yields, goesOn⟩ := Transaction.bind_eq_ok.mp done
    obtain ⟨yielded, rfl⟩ := compute_eq_ok.mp yields
    obtain rfl := wrapped_eq_ok.mp yielded
    cases found : embeddingByPage pages embeddings page.1 with
    | none =>
      rw [found] at goesOn
      obtain ⟨rendered, rfl, stored, documents, contents, others⟩ := ih goesOn
      refine ⟨page :: rendered, rfl, ?_, documents, ?_, others⟩
      · intro other member parsed
        rcases List.mem_cons.mp member with rfl | later
        · exact absurd found parsed
        · exact stored other later parsed
      · simpa [indexedPages, found] using contents
    | some embedding =>
      rw [found] at goesOn
      obtain ⟨_, _, uploads, indexes⟩ := Transaction.bind_eq_ok.mp goesOn
      -- The image is uploaded before its chunk is inserted.
      obtain ⟨uploaded, rfl⟩ := compute_eq_ok.mp uploads
      obtain ⟨chunkId, middle, inserts, others⟩ := Transaction.bind_eq_ok.mp indexes
      obtain ⟨uninterrupted, insertion⟩ := interruptible_eq_ok.mp inserts
      have inserted := onPdfStore_eq_ok.mp insertion
      obtain ⟨rendered, rfl, stored, documents, contents, others⟩ := ih others
      refine ⟨page :: rendered, rfl, ?_, ?_, ?_, ?_⟩
      · intro other member parsed
        rcases List.mem_cons.mp member with rfl | later
        · exact ⟨uploadBytes_eq_ok.mp uploaded, uninterrupted⟩
        · exact stored other later parsed
      · exact documents.trans (Store.insertChunk_spec inserted).1
      · rw [contents, Store.contentsOf_insertChunk inserted]
        simp [indexedPages, found]
      · intro other different
        rw [others other different, Store.ownedChunks_insertChunk_ne inserted different]

/-- A document has no chunks before it has a row. -/
theorem Store.contentsOf_next (store : Store) : store.contentsOf store.nextDocumentId = [] := by
  -- Every chunk belongs to a row, and the ids of rows are smaller.
  rw [Store.contentsOf, List.map_eq_nil_iff, Store.ownedChunks, List.filter_eq_nil_iff]
  intro chunk member same
  obtain ⟨row, present, id⟩ := List.mem_map.mp (store.chunks_owned chunk member)
  have less := store.documentIds_fresh row present
  simp only [decide_eq_true_eq] at same
  omega

/-- A file that is ingested anew adds its document. -/
theorem addsDocument_of_ingestNew {bytes : List UInt8} (file : attempt.isFile = true)
    (hashed : attempt.hashed = .ok bytes) (lookedUp : attempt.faults .getDocument = none)
    (new : store.getDocumentBySourceRef (library.sha256 bytes) = none)
    (done : ingestNew library attempt (library.sha256 bytes) store = .ok document next) :
    document.sourceRef = library.sha256 bytes ∧
      AddsDocument library attempt store next document := by
  obtain ⟨pdfBytes, _, reads, afterRead⟩ := Transaction.bind_eq_ok.mp done
  obtain ⟨read, rfl⟩ := compute_eq_ok.mp reads
  obtain ⟨_, _, uploads, afterUpload⟩ := Transaction.bind_eq_ok.mp afterRead
  obtain ⟨uploaded, rfl⟩ := compute_eq_ok.mp uploads
  obtain ⟨pages, _, parses, afterParse⟩ := Transaction.bind_eq_ok.mp afterUpload
  obtain ⟨parsed, rfl⟩ := compute_eq_ok.mp parses
  split at afterParse
  · cases afterParse
  rename_i nonempty
  obtain ⟨owner, upserted, upserts, afterUpsert⟩ := Transaction.bind_eq_ok.mp afterParse
  obtain ⟨upsertWhole, upsert⟩ := interruptible_eq_ok.mp upserts
  have stored := onPdfStore_eq_ok.mp upsert
  obtain ⟨embeddings, _, embeds, afterEmbed⟩ := Transaction.bind_eq_ok.mp afterUpsert
  obtain ⟨embedded, rfl⟩ := compute_eq_ok.mp embeds
  obtain ⟨vectors, enough⟩ := embedPages_eq_ok embedded
  obtain ⟨_, _, opens, afterOpen⟩ := Transaction.bind_eq_ok.mp afterEmbed
  obtain ⟨opened, rfl⟩ := compute_eq_ok.mp opens
  obtain ⟨_, filled, renders, returns⟩ := Transaction.bind_eq_ok.mp afterOpen
  obtain ⟨rfl, rfl⟩ := Transaction.pure_eq_ok.mp returns
  obtain ⟨rendered, all, pagesStored, documents, contents, others⟩ :=
    renderAndPersist_eq_ok renders
  -- No document has the hash, so the upsert added one, which had no chunks before.
  obtain ⟨sameChunks, ⟨existing, found, _⟩ | ⟨_, row, rows⟩⟩ := Store.upsertDocument_cases stored
  · cases new.symm.trans found
  have key : owner.sourceRef = library.sha256 bytes := by rw [row]
  have owned : ∀ id, upserted.ownedChunks id = store.ownedChunks id := fun id => by
    rw [Store.ownedChunks, sameChunks, Store.ownedChunks]
  -- The number of the document is new, so no chunk has it.
  have unfilled : upserted.contentsOf owner.id = [] := by
    have id : owner.id = store.nextDocumentId := by rw [row]
    rw [Store.contentsOf, owned, id]
    exact store.contentsOf_next
  refine ⟨key, ?_⟩
  exact
    { row := by rw [key]; exact row
      new := key ▸ new
      documents := documents.trans rows
      other_chunks := fun other different => (others other different).trans (owned other)
      complete :=
        { is_file := file
          hashed := ⟨bytes, hashed, key.symm⟩
          file_stored := ⟨pdfBytes, read, key ▸ uploadBytes_eq_ok.mp uploaded⟩
          opened := wrapped_eq_ok.mp opened
          pages_indexed := ⟨pages, embeddings, rendered, wrapped_eq_ok.mp parsed, nonempty,
            vectors, enough,
            { rendered_all := all
              images_stored := fun page member parsedPage =>
                key ▸ (pagesStored page member parsedPage).1
              inserts_uninterrupted := fun page member parsedPage =>
                (pagesStored page member parsedPage).2 },
            by rw [contents, unfilled, List.nil_append, key]⟩
          uninterrupted := ⟨lookedUp, upsertWhole⟩ } }

/-- An ingestion that succeeds returns the document of the file, or adds it. -/
theorem ingestPdf_eq_ok (done : ingestPdf library attempt store = .ok document next) :
    (∃ bytes, attempt.hashed = .ok bytes ∧ document.sourceRef = library.sha256 bytes) ∧
      (next = store ∧ store.getDocumentBySourceRef document.sourceRef = some document ∨
        AddsDocument library attempt store next document) := by
  -- A file that is found by its hash is returned, and any other one is ingested anew.
  unfold ingestPdf at done
  split at done
  · cases done
  rename_i file
  obtain ⟨bytes, _, hashes, afterHash⟩ := Transaction.bind_eq_ok.mp done
  obtain ⟨hashed, rfl⟩ := compute_eq_ok.mp hashes
  obtain ⟨existing, _, looksUp, afterLookUp⟩ := Transaction.bind_eq_ok.mp afterHash
  obtain ⟨lookedUp, look⟩ := interruptible_eq_ok.mp looksUp
  obtain ⟨rfl, found⟩ := by simpa using call_eq_ok.mp look
  cases existing with
  | some document =>
    obtain ⟨rfl, rfl⟩ := Transaction.pure_eq_ok.mp afterLookUp
    have key := Store.sourceRef_of_found found
    exact ⟨⟨bytes, hashed, key⟩, .inl ⟨rfl, key ▸ found⟩⟩
  | none =>
    obtain ⟨key, added⟩ := addsDocument_of_ingestNew (by simpa using file) hashed lookedUp found
      afterLookUp
    exact ⟨⟨bytes, hashed, key⟩, .inr added⟩

end TorqueFinder
