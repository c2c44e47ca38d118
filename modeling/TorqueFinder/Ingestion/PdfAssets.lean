import TorqueFinder.Ingestion.PdfPipeline
import TorqueFinder.Lib.Simulation

/-! Ingestion of one PDF, together with the objects it leaves in the asset store. -/

namespace TorqueFinder

open Transaction Simulation

/-- What the database and the asset store hold. -/
structure PdfWorld where
  store : Store
  /-- Everything that was uploaded under a key, the latest last. -/
  objects : List (String × List UInt8)

namespace PdfWorld

/-- The database as a part of the world. -/
def database : Part PdfWorld Store where
  -- The statements act on the rows and leave the objects.
  read := store
  replace world store := { world with store }
  read_replace _ _ := rfl

/-- The object under a key, which is the one that was uploaded last. -/
def object (world : PdfWorld) (key : String) : Option (List UInt8) :=
  (world.objects.reverse.find? fun upload => upload.1 = key).map Prod.snd

/-- Store an object under a key. -/
def uploadBytes (library : PdfLibrary) (attempt : PdfAttempt) (key : String) (data : List UInt8)
    (contentType : String) : EStateM PdfFailure PdfWorld Unit :=
  -- The bytes are stored as soon as the call returns.
  call fun world =>
    (TorqueFinder.uploadBytes library attempt key data contentType).map fun _ =>
      ({ world with objects := world.objects ++ [(key, data)] }, ())

/-- Upload and index the pages that are still to be rendered. -/
def renderAndPersist (library : PdfLibrary) (attempt : PdfAttempt) (documentId : Int)
    (sha256 : String) (pages : List ParsedPage) (embeddings : List Embedding) :
    List (Except PdfFailure (Nat × List UInt8)) → EStateM PdfFailure PdfWorld Unit
  | [] => pure ()
  | next :: rest => do
    let page ← compute (wrapped ("render failed for " ++ attempt.path) next)
    match embeddingByPage pages embeddings page.1 with
    -- A page without parsed text is skipped.
    | none => PdfWorld.renderAndPersist library attempt documentId sha256 pages embeddings rest
    | some embedding => do
      PdfWorld.uploadBytes library attempt (pngKey sha256 page.1) page.2 "image/png"
      let _ ← focus database (interruptible (attempt.faults (.insertChunk page.1))
        (onPdfStore library fun store =>
          store.insertChunk documentId (pageValues sha256 pages page.1) embedding))
      PdfWorld.renderAndPersist library attempt documentId sha256 pages embeddings rest

/-- Store, parse, embed, render and index a file that is not indexed yet. -/
def ingestNew (library : PdfLibrary) (attempt : PdfAttempt) (sha256 : String) :
    EStateM PdfFailure PdfWorld IndexedDocument := do
  -- The same steps as over the database alone, with the uploads written down.
  let pdfBytes ← compute attempt.readBytes
  PdfWorld.uploadBytes library attempt (pdfKey sha256) pdfBytes "application/pdf"
  let pages ← compute (wrapped ("parsing failed for " ++ attempt.path) attempt.parsePdf)
  if pages = [] then compute (pdfError ("no pages parsed from " ++ attempt.path))
  else
    let document ← focus database (interruptible (attempt.faults .upsertDocument)
      (onPdfStore library fun store =>
        store.upsertDocument attempt.order .pdf attempt.name (pdfKey sha256) sha256))
    let embeddings ← compute (embedPages attempt pages)
    compute (wrapped ("render init failed for " ++ attempt.path) attempt.renderPages)
    PdfWorld.renderAndPersist library attempt document.id sha256 pages embeddings attempt.rendered
    return document

/-- Ingest one PDF, or return the document it already is. -/
def ingest (library : PdfLibrary) (attempt : PdfAttempt) :
    EStateM PdfFailure PdfWorld IndexedDocument := do
  if attempt.isFile = false then compute (pdfError ("PDF not found: " ++ attempt.path))
  else
    let bytes ← compute attempt.hashed
    let existing ← focus database (interruptible (attempt.faults .getDocument)
      (call fun store => .ok (store, store.getDocumentBySourceRef (library.sha256 bytes))))
    match existing with
    -- A present document is taken to be complete.
    | some document => return document
    | none => PdfWorld.ingestNew library attempt (library.sha256 bytes)

/-- The images that an ingestion uploads, under their keys. -/
def imageUploads (sha256 : String) (pages : List ParsedPage) (embeddings : List Embedding)
    (rendered : List (Nat × List UInt8)) : List (String × List UInt8) :=
  -- Only images of pages with a vector are uploaded.
  (rendered.filter fun page => embeddingByPage pages embeddings page.1 ≠ none).map fun page =>
    (pngKey sha256 page.1, page.2)

variable {library : PdfLibrary} {attempt : PdfAttempt} {sha256 : String}
  {world next before after : PdfWorld} {pages : List ParsedPage} {embeddings : List Embedding}
  {document : IndexedDocument}

/-- An upload leaves the database. -/
theorem uploadBytes_simulates {key contentType : String} {data : List UInt8} :
    Simulates database (PdfWorld.uploadBytes library attempt key data contentType)
      (compute (TorqueFinder.uploadBytes library attempt key data contentType)) := by
  -- Seen from the database, an upload only succeeds or fails.
  intro world
  rw [PdfWorld.uploadBytes, call]
  cases TorqueFinder.uploadBytes library attempt key data contentType <;> rfl

/-- Uploading and indexing pages does to the database what indexing them does. -/
theorem renderAndPersist_simulates {documentId : Int}
    {rendering : List (Except PdfFailure (Nat × List UInt8))} :
    Simulates database
      (PdfWorld.renderAndPersist library attempt documentId sha256 pages embeddings rendering)
      (TorqueFinder.renderAndPersist library attempt documentId sha256 pages embeddings
        rendering) := by
  -- A page without an embedding is skipped by both.
  induction rendering with
  | nil => exact .pure ()
  | cons first rest ih =>
    refine .bind (.compute _) fun page => ?_
    cases embeddingByPage pages embeddings page.1 with
    | none => exact ih
    | some embedding => exact .bind uploadBytes_simulates fun _ => .bind (.focus _) fun _ => ih

/-- Ingesting a new file does to the database what it does without its uploads. -/
theorem ingestNew_simulates :
    Simulates database (PdfWorld.ingestNew library attempt sha256)
      (TorqueFinder.ingestNew library attempt sha256) := by
  -- The steps agree one after the other, and the uploads do nothing to the database.
  refine .bind (.compute _) fun pdfBytes => ?_
  refine .bind uploadBytes_simulates fun _ => ?_
  refine .bind (.compute _) fun pages => ?_
  split
  · exact .compute _
  refine .bind (.focus _) fun document => ?_
  refine .bind (.compute _) fun embeddings => ?_
  refine .bind (.compute _) fun _ => ?_
  exact .bind renderAndPersist_simulates fun _ => .pure document

/-- An ingestion does to the database what it does without its uploads. -/
theorem ingest_simulates :
    Simulates database (PdfWorld.ingest library attempt) (ingestPdf library attempt) := by
  -- The look-up decides both in the same way.
  unfold PdfWorld.ingest ingestPdf
  split
  · exact .compute _
  refine .bind (.compute _) fun bytes => ?_
  refine .bind (.focus _) fun existing => ?_
  cases existing with
  | some document => exact .pure document
  | none => exact ingestNew_simulates

/-- An upload that succeeds is the latest one. -/
theorem objects_uploadBytes {key contentType : String} {data : List UInt8}
    (done : PdfWorld.uploadBytes library attempt key data contentType world = .ok () next) :
    next.objects = world.objects ++ [(key, data)] := by
  -- The upload is recorded when the asset store took it.
  have called := call_eq_ok.mp done
  cases taken : TorqueFinder.uploadBytes library attempt key data contentType with
  | error failure =>
    rw [taken] at called
    cases called
  | ok _ =>
    rw [taken] at called
    cases called
    rfl

/-- A statement on the database leaves the objects. -/
theorem objects_focus {α : Type} {statement : EStateM PdfFailure Store α} {value : α}
    (done : focus database statement world = .ok value next) : next.objects = world.objects := by
  -- A statement of the database uploads nothing.
  obtain ⟨_, _, rfl⟩ := focus_eq_ok.mp done
  rfl

/-- Pages that are all indexed have their images uploaded, in their order. -/
theorem objects_renderAndPersist {documentId : Int}
    {rendering : List (Except PdfFailure (Nat × List UInt8))}
    (done : PdfWorld.renderAndPersist library attempt documentId sha256 pages embeddings rendering
      world = .ok () next) :
    ∃ rendered, rendering = rendered.map .ok ∧
      next.objects = world.objects ++ imageUploads sha256 pages embeddings rendered := by
  -- A page without an embedding uploads nothing, and any other page one image.
  induction rendering generalizing world with
  | nil =>
    obtain ⟨_, rfl⟩ := Transaction.pure_eq_ok.mp done
    exact ⟨[], rfl, (List.append_nil _).symm⟩
  | cons first rest ih =>
    obtain ⟨page, _, yields, goesOn⟩ := Transaction.bind_eq_ok.mp done
    obtain ⟨yielded, rfl⟩ := compute_eq_ok.mp yields
    obtain rfl := wrapped_eq_ok.mp yielded
    cases found : embeddingByPage pages embeddings page.1 with
    | none =>
      rw [found] at goesOn
      obtain ⟨rendered, rfl, objects⟩ := ih goesOn
      refine ⟨page :: rendered, rfl, ?_⟩
      simpa [imageUploads, found] using objects
    | some embedding =>
      rw [found] at goesOn
      obtain ⟨_, uploaded, uploads, indexes⟩ := Transaction.bind_eq_ok.mp goesOn
      obtain ⟨_, inserted, inserts, others⟩ := Transaction.bind_eq_ok.mp indexes
      obtain ⟨rendered, rfl, objects⟩ := ih others
      refine ⟨page :: rendered, rfl, ?_⟩
      rw [objects, objects_focus inserts, objects_uploadBytes uploads]
      simp [imageUploads, found]

/-- A file that is ingested anew uploads itself and then the images of its pages. -/
theorem objects_ingestNew
    (done : PdfWorld.ingestNew library attempt sha256 world = .ok document next) :
    ∃ pdfBytes pages embeddings rendered, attempt.parsePdf = .ok pages ∧
      attempt.embedDocuments (pages.map embedInput) = .ok embeddings ∧
        attempt.rendered = rendered.map .ok ∧
          next.objects = world.objects ++ (pdfKey sha256, pdfBytes) ::
            imageUploads sha256 pages embeddings rendered := by
  -- Only the two upload steps add objects.
  obtain ⟨pdfBytes, _, reads, afterRead⟩ := Transaction.bind_eq_ok.mp done
  obtain ⟨_, rfl⟩ := compute_eq_ok.mp reads
  obtain ⟨_, uploaded, uploads, afterUpload⟩ := Transaction.bind_eq_ok.mp afterRead
  obtain ⟨pages, _, parses, afterParse⟩ := Transaction.bind_eq_ok.mp afterUpload
  obtain ⟨parsed, rfl⟩ := compute_eq_ok.mp parses
  split at afterParse
  · cases afterParse
  obtain ⟨owner, upserted, upserts, afterUpsert⟩ := Transaction.bind_eq_ok.mp afterParse
  obtain ⟨embeddings, _, embeds, afterEmbed⟩ := Transaction.bind_eq_ok.mp afterUpsert
  obtain ⟨embedded, rfl⟩ := compute_eq_ok.mp embeds
  obtain ⟨_, _, opens, afterOpen⟩ := Transaction.bind_eq_ok.mp afterEmbed
  obtain ⟨_, rfl⟩ := compute_eq_ok.mp opens
  obtain ⟨_, filled, renders, returns⟩ := Transaction.bind_eq_ok.mp afterOpen
  obtain ⟨_, rfl⟩ := Transaction.pure_eq_ok.mp returns
  obtain ⟨rendered, all, objects⟩ := objects_renderAndPersist renders
  refine ⟨pdfBytes, pages, embeddings, rendered, wrapped_eq_ok.mp parsed,
    (embedPages_eq_ok embedded).1, all, ?_⟩
  rw [objects, objects_focus upserts, objects_uploadBytes uploads, List.append_assoc]
  rfl

/-- A successful ingestion of a file that has no document goes through all of its steps. -/
theorem ingest_new {bytes : List UInt8} (hashed : attempt.hashed = .ok bytes)
    (new : before.store.getDocumentBySourceRef (library.sha256 bytes) = none)
    (done : PdfWorld.ingest library attempt before = .ok document after) :
    PdfWorld.ingestNew library attempt (library.sha256 bytes) before = .ok document after := by
  -- The look-up finds nothing and changes nothing.
  unfold PdfWorld.ingest at done
  split at done
  · cases done
  obtain ⟨read, _, hashes, afterHash⟩ := Transaction.bind_eq_ok.mp done
  obtain ⟨alsoHashed, rfl⟩ := compute_eq_ok.mp hashes
  obtain rfl := Except.ok.inj (hashed.symm.trans alsoHashed)
  obtain ⟨existing, lookedUp, looksUp, afterLookUp⟩ := Transaction.bind_eq_ok.mp afterHash
  obtain ⟨store, look, rfl⟩ := focus_eq_ok.mp looksUp
  obtain ⟨_, called⟩ := interruptible_eq_ok.mp look
  obtain ⟨rfl, found⟩ := by simpa using call_eq_ok.mp called
  obtain rfl := new.symm.trans found
  exact afterLookUp

end PdfWorld

end TorqueFinder
