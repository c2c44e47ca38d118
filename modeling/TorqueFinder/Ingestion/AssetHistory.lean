import TorqueFinder.Ingestion.PageAlignment
import TorqueFinder.Lib.Footprint

/-! The asset store over a history of ingested files, some of which fail behind their uploads. -/

namespace TorqueFinder

open Transaction Simulation Footprint History

/-- What an attempt uploads for a file: the file as it was read, or a page as it was rendered. -/
def IsUploadOf (attempt : PdfAttempt) (sha256 : String) (upload : String × List UInt8) : Prop :=
  -- A file uploads its own bytes and the images that it has rendered.
  (upload.1 = pdfKey sha256 ∧ attempt.readBytes = .ok upload.2) ∨
    ∃ image, .ok image ∈ attempt.rendered ∧ upload = (pngKey sha256 image.1, image.2)

/-- Nothing is lost from the asset store, and only some uploads are added. -/
def Adds (allowed : String × List UInt8 → Prop) (before after : PdfWorld) : Prop :=
  ∃ added, after.objects = before.objects ++ added ∧ ∀ upload ∈ added, allowed upload

namespace PdfWorld

/-- Ingest one file in a scope that rolls back the database when it fails, but no upload. -/
def pipelineScope (library : PdfLibrary) (attempt : PdfAttempt) (world : PdfWorld) :
    PdfWorld × FileResult :=
  match attempt.faults .openSession with
  | some _ => (world, .raised)
  | none =>
    match PdfWorld.ingest library attempt world with
    | .ok document next =>
      match attempt.faults .commit with
      | none => (next, .indexed document)
      -- The rollback takes the rows back, but not the objects.
      | some _ => ({ next with store := world.store }, .raised)
    | .error (.ingestion error) next => ({ next with store := world.store }, .failed error)
    | .error .other next => ({ next with store := world.store }, .raised)

end PdfWorld

/-- What the database and the asset store hold after some attempts, one after the other. -/
def worldAfter (library : PdfLibrary) (attempts : List PdfAttempt) : PdfWorld :=
  after (fun world attempt => (PdfWorld.pipelineScope library attempt world).1) ⟨.empty, []⟩
    attempts

/-- A document whose file and pages are stored as an attempt read and rendered them. -/
structure ShownBy (library : PdfLibrary) (world : PdfWorld) (document : IndexedDocument)
    (attempt : PdfAttempt) : Prop where
  hashed : ∃ bytes, attempt.hashed = .ok bytes ∧ document.sourceRef = library.sha256 bytes
  file : ∃ pdfBytes, attempt.readBytes = .ok pdfBytes ∧
    world.object (pdfKey document.sourceRef) = some pdfBytes
  pages : ∃ (pages : List ParsedPage) (embeddings : List Embedding)
    (images : List (Nat × List UInt8)), attempt.parsePdf = .ok pages ∧
    attempt.embedDocuments (pages.map embedInput) = .ok embeddings ∧
      attempt.rendered = images.map .ok ∧
        List.Forall₂ (CarriesPage world document.sourceRef pages embeddings)
          (images.filter fun image => ∃ page ∈ pages, page.pageNo = (image.1 : Int))
          (world.store.contentsOf document.id)

variable {library : PdfLibrary} {attempt : PdfAttempt} {world next before after : PdfWorld}
  {sha256 other : String} {document : IndexedDocument} {allowed : String × List UInt8 → Prop}
  {pages : List ParsedPage} {embeddings : List Embedding}

section Uploads

/-- Adding nothing and adding twice are adding. -/
instance (allowed : String × List UInt8 → Prop) : IsPreorder PdfWorld (Adds allowed) where
  refl world := ⟨[], (List.append_nil _).symm, List.forall_mem_nil _⟩
  trans before world after first second := by
    obtain ⟨early, start, allowedEarly⟩ := first
    obtain ⟨late, goesOn, allowedLate⟩ := second
    refine ⟨early ++ late, by rw [goesOn, start, List.append_assoc], ?_⟩
    exact List.forall_mem_append.mpr ⟨allowedEarly, allowedLate⟩

/-- A statement on the database adds nothing. -/
theorem within_focus {α : Type} (program : EStateM PdfFailure Store α) :
    Within (Adds allowed) (focus PdfWorld.database program) :=
  .focus (fun world _ => ⟨[], (List.append_nil world.objects).symm, List.forall_mem_nil _⟩) program

/-- An upload adds itself. -/
theorem within_uploadBytes {key contentType : String} {data : List UInt8}
    (permitted : allowed (key, data)) :
    Within (Adds allowed) (PdfWorld.uploadBytes library attempt key data contentType) := by
  refine .call fun world next value called => ?_
  cases taken : TorqueFinder.uploadBytes library attempt key data contentType with
  | error failure =>
    rw [taken] at called
    cases called
  | ok _ =>
    rw [taken] at called
    obtain ⟨rfl, _⟩ := Prod.mk.inj (Except.ok.inj called)
    -- One object is appended, under the key and with the bytes of the call.
    exact ⟨[(key, data)], rfl, List.forall_mem_singleton.mpr permitted⟩

/-- The pages of a file are uploaded as they are rendered, however far the rendering comes. -/
theorem within_renderAndPersist {documentId : Int}
    {rendering : List (Except PdfFailure (Nat × List UInt8))}
    (among : ∀ image, .ok image ∈ rendering → .ok image ∈ attempt.rendered) :
    Within (Adds (IsUploadOf attempt sha256))
      (PdfWorld.renderAndPersist library attempt documentId sha256 pages embeddings rendering) := by
  induction rendering with
  | nil => exact .pure ()
  | cons first rest ih =>
    have others := ih fun image member => among image (List.mem_cons_of_mem _ member)
    refine .compute_bind fun image yielded => ?_
    -- An image that is yielded is one of the attempt.
    have rendered : Except.ok image ∈ attempt.rendered :=
      among image (wrapped_eq_ok.mp yielded ▸ List.mem_cons_self)
    split
    · exact others
    · -- Only a page with a vector uploads its image.
      have permitted : IsUploadOf attempt sha256 (pngKey sha256 image.1, image.2) :=
        .inr ⟨image, rendered, rfl⟩
      refine .bind (within_uploadBytes permitted) fun _ => ?_
      exact .bind (within_focus _) fun _ => others

/-- A new file uploads itself and its pages, however far its ingestion comes. -/
theorem within_ingestNew :
    Within (Adds (IsUploadOf attempt sha256)) (PdfWorld.ingestNew library attempt sha256) := by
  refine .compute_bind fun pdfBytes read => ?_
  -- The bytes of the file itself are uploaded first.
  have permitted : IsUploadOf attempt sha256 (pdfKey sha256, pdfBytes) := .inl ⟨rfl, read⟩
  refine .bind (within_uploadBytes permitted) fun _ => ?_
  refine .bind (.compute _) fun pages => ?_
  split
  · exact .compute _
  refine .bind (within_focus _) fun owner => ?_
  refine .bind (.compute _) fun embeddings => ?_
  refine .bind (.compute _) fun _ => ?_
  exact .bind (within_renderAndPersist fun _ member => member) fun _ =>
    .pure _

/-- An ingestion uploads something only for a file without a document. -/
theorem adds_of_ingest (library : PdfLibrary) (attempt : PdfAttempt) (world : PdfWorld) :
    (final (PdfWorld.ingest library attempt world)).objects = world.objects ∨
      ∃ bytes, attempt.hashed = .ok bytes ∧
        world.store.getDocumentBySourceRef (library.sha256 bytes) = none ∧
          Adds (IsUploadOf attempt (library.sha256 bytes)) world
            (final (PdfWorld.ingest library attempt world)) := by
  unfold PdfWorld.ingest
  split
  · exact .inl rfl
  cases hashed : attempt.hashed with
  | error failure => exact .inl rfl
  | ok bytes =>
    cases fault : attempt.faults .getDocument with
    | some interruption => exact .inl rfl
    | none =>
      cases known : world.store.getDocumentBySourceRef (library.sha256 bytes) with
      -- A known file is skipped before anything is uploaded.
      | some document =>
        refine .inl ?_
        simp [bind, EStateM.bind, compute, focus, PdfWorld.database, call, known, pure,
          EStateM.pure, final]
      -- For a new file the steps behind the lookup are those of a first ingestion.
      | none =>
        refine .inr ⟨bytes, rfl, known, ?_⟩
        have uploads : Adds (IsUploadOf attempt (library.sha256 bytes)) world
            (final (PdfWorld.ingestNew library attempt (library.sha256 bytes) world)) :=
          within_ingestNew world
        simpa [bind, EStateM.bind, compute, focus, PdfWorld.database, call, known] using uploads

end Uploads

section Keys

variable {pageNo number : Nat} {key : String}

/-- Files with the same key have the same hash. -/
theorem sha256_of_pdfKey (same : pdfKey sha256 = pdfKey other) : sha256 = other := by
  -- The digest stands between two fixed texts.
  have texts := congrArg String.toList same
  simp only [pdfKey, String.toList_append] at texts
  exact String.toList_injective (List.append_cancel_left (List.append_cancel_right texts))

/-- Pages with the same key are of files with the same hash, when no hash has a slash. -/
theorem sha256_of_pngKey (plain : '/' ∉ sha256.toList) (alsoPlain : '/' ∉ other.toList)
    (same : pngKey sha256 pageNo = pngKey other number) : sha256 = other := by
  have slash : "/".toList = ['/'] := rfl
  have texts := congrArg String.toList same
  simp only [pngKey, String.toList_append, slash, List.append_assoc, List.cons_append] at texts
  -- The hash ends at the first slash behind the name of the folder.
  have front : ∀ hash rest : List Char, '/' ∉ hash →
      (hash ++ '/' :: rest).takeWhile (· ≠ '/') = hash := by
    intro hash rest absent
    have letters : ∀ char ∈ hash, decide (char ≠ '/') = true := fun char member =>
      decide_eq_true (ne_of_mem_of_not_mem member absent)
    rw [List.takeWhile_append_of_pos letters, List.takeWhile_cons_of_neg (by simp),
      List.append_nil]
  have hashes := congrArg (List.takeWhile (· ≠ '/')) (List.append_cancel_left texts)
  rw [front _ _ plain, front _ _ alsoPlain] at hashes
  exact String.toList_injective hashes

/-- No file has the key of a page. -/
theorem pdfKey_ne_pngKey : pdfKey sha256 ≠ pngKey other pageNo := by
  -- The keys differ in their second letter, as pdfs and pages do.
  intro same
  have texts := congrArg String.toList same
  simp only [pdfKey, pngKey, String.toList_append, List.append_assoc] at texts
  have seconds : some 'd' = some 'a' := congrArg (fun text => text.tail.head?) texts
  exact absurd seconds (by decide)

/-- An object is the one it was when nothing was added under its key. -/
theorem object_of_adds (adds : Adds allowed before after)
    (avoids : ∀ upload, allowed upload → upload.1 ≠ key) :
    after.object key = before.object key := by
  obtain ⟨added, objects, among⟩ := adds
  -- No added object has the key, so the search goes on to the older ones.
  have none : added.reverse.find? (fun upload => upload.1 = key) = none := by
    rw [List.find?_eq_none]
    intro upload member
    simpa using avoids upload (among upload (List.mem_reverse.mp member))
  rw [PdfWorld.object, objects, List.reverse_append, List.find?_append, none, Option.none_or]
  rfl

/-- What is uploaded for one file leaves the objects of any other. -/
theorem objects_of_other (plain : '/' ∉ sha256.toList) (alsoPlain : '/' ∉ other.toList)
    (different : other ≠ sha256) (adds : Adds (IsUploadOf attempt sha256) before after) :
    after.object (pdfKey other) = before.object (pdfKey other) ∧
      ∀ pageNo, after.object (pngKey other pageNo) = before.object (pngKey other pageNo) := by
  -- Digests without a slash keep the keys of two manuals apart.
  refine ⟨object_of_adds adds ?_, fun pageNo => object_of_adds adds ?_⟩
  · rintro ⟨_, data⟩ (⟨rfl, -⟩ | ⟨image, -, same⟩) taken
    · exact different (sha256_of_pdfKey taken).symm
    · exact pdfKey_ne_pngKey (taken.symm.trans (congrArg Prod.fst same))
  · rintro ⟨_, data⟩ (⟨rfl, -⟩ | ⟨image, -, same⟩) taken
    · exact pdfKey_ne_pngKey taken
    · have keys := (congrArg Prod.fst same).symm.trans taken
      exact different (sha256_of_pngKey plain alsoPlain keys).symm

end Keys

section Scopes

/-- A document is shown as before when its contents and objects are the same. -/
theorem ShownBy.of_same (shown : ShownBy library world document attempt)
    (file : next.object (pdfKey document.sourceRef) = world.object (pdfKey document.sourceRef))
    (images : ∀ pageNo, next.object (pngKey document.sourceRef pageNo) =
      world.object (pngKey document.sourceRef pageNo))
    (contents : next.store.contentsOf document.id = world.store.contentsOf document.id) :
    ShownBy library next document attempt where
  -- All that shows the document is read from these two.
  hashed := shown.hashed
  file := by
    rw [file]
    exact shown.file
  pages := by
    obtain ⟨pages, embeddings, rendered, parsed, embedded, all, carried⟩ := shown.pages
    refine ⟨pages, embeddings, rendered, parsed, embedded, all, ?_⟩
    rw [contents]
    exact carried.imp fun image content held =>
      { held with stored := (images image.1).trans held.stored }

/-- An attempt on a file leaves every document shown that was there before. -/
theorem ShownBy.of_ingest {earlier : PdfAttempt}
    (plain : ∀ bytes, '/' ∉ (library.sha256 bytes).toList)
    (shown : ShownBy library world document earlier) (stored : document ∈ world.store.documents)
    (objects : next.objects = (final (PdfWorld.ingest library attempt world)).objects)
    (contents : next.store.contentsOf document.id = world.store.contentsOf document.id) :
    ShownBy library next document earlier := by
  obtain ⟨bytes, -, key⟩ := shown.hashed
  have hash : '/' ∉ document.sourceRef.toList := key ▸ plain bytes
  rcases adds_of_ingest library attempt world with same | ⟨others, -, new, adds⟩
  · have object : ∀ key, next.object key = world.object key := fun key => by
      rw [PdfWorld.object, objects, same]
      rfl
    exact shown.of_same (object _) (fun _ => object _) contents
  · -- The file has no document yet, so it is another one.
    have different : document.sourceRef ≠ library.sha256 others := by
      intro same
      rw [Store.found_iff.mpr ⟨stored, same⟩] at new
      cases new
    obtain ⟨added, more, among⟩ := adds
    obtain ⟨file, images⟩ := objects_of_other (plain others) hash different
      (⟨added, objects.trans more, among⟩ : Adds (IsUploadOf attempt _) world next)
    exact shown.of_same file images contents

/-- A file that is indexed is shown by its own attempt. -/
theorem shownBy_of_added {bytes : List UInt8} (hashed : attempt.hashed = .ok bytes)
    (key : document.sourceRef = library.sha256 bytes) (numbered : NumberedFromOne attempt.rendered)
    (done : PdfWorld.ingest library attempt world = .ok document next)
    (added : AddsDocument library attempt world.store next.store document) :
    ShownBy library next document attempt := by
  obtain ⟨pages, embeddings, images, parsed, -, embedded, enough, complete, indexed⟩ :=
    added.complete.pages_indexed
  have new : world.store.getDocumentBySourceRef (library.sha256 bytes) = none := key ▸ added.new
  have ingested := PdfWorld.ingest_new hashed new done
  obtain ⟨pdfBytes, _, _, _, sameParsed, sameEmbedded, sameRendered, objects⟩ :=
    PdfWorld.objects_ingestNew ingested
  obtain rfl := Except.ok.inj (parsed.symm.trans sameParsed)
  obtain rfl := Except.ok.inj (embedded.symm.trans sameEmbedded)
  obtain rfl := List.map_injective_iff.mpr (fun _ _ => Except.ok.inj)
    (complete.rendered_all.symm.trans sameRendered)
  rw [← key] at objects
  -- The pages are numbered apart, so each image has a key of its own.
  have distinct : (images.map Prod.fst).Nodup := by
    rw [numbered images complete.rendered_all]
    exact List.nodup_range'
  have uploads : next.objects = (world.objects ++ [(pdfKey document.sourceRef, pdfBytes)]) ++
      PdfWorld.imageUploads document.sourceRef pages embeddings images := by
    rw [objects, List.append_assoc]
    rfl
  refine ⟨⟨bytes, hashed, key⟩, ⟨pdfBytes, ?_, ?_⟩, pages, embeddings, images, parsed, embedded,
    complete.rendered_all, ?_⟩
  · -- The first upload is the file, which has the key of no page.
    obtain ⟨uploaded, more, among⟩ : Adds (IsUploadOf attempt document.sourceRef) world next := by
      have reached : Adds (IsUploadOf attempt (library.sha256 bytes)) world
          (final (PdfWorld.ingestNew library attempt (library.sha256 bytes) world)) :=
        within_ingestNew world
      rwa [ingested, ← key] at reached
    have same := List.append_cancel_left (more.symm.trans objects)
    rcases among (pdfKey document.sourceRef, pdfBytes) (same ▸ List.mem_cons_self) with
      ⟨-, read⟩ | ⟨image, -, named⟩
    · exact read
    · exact absurd (congrArg Prod.fst named) pdfKey_ne_pngKey
  · -- Behind the file only images are uploaded.
    have images : (PdfWorld.imageUploads document.sourceRef pages embeddings images).reverse.find?
        (fun upload => upload.1 = pdfKey document.sourceRef) = none := by
      rw [List.find?_eq_none]
      intro upload member
      obtain ⟨image, -, rfl⟩ := List.mem_map.mp (List.mem_reverse.mp member)
      simpa using pdfKey_ne_pngKey.symm
    rw [PdfWorld.object, uploads, List.reverse_append, List.find?_append, images, Option.none_or,
      List.reverse_append]
    simp
  · -- Each indexed page has its image among the uploads.
    rw [indexed]
    exact carriesPage_indexedPages enough fun image member parsedPage =>
      object_of_imageUploads distinct uploads member parsedPage

/-- A scope does to the database what it does without its uploads. -/
theorem store_pipelineScope (library : PdfLibrary) (attempt : PdfAttempt) (world : PdfWorld) :
    ((PdfWorld.pipelineScope library attempt world).1.store,
      (PdfWorld.pipelineScope library attempt world).2) =
        pipelineScope library attempt world.store := by
  -- Seen from the database, the run is the one of the model without objects.
  have simulated : seen PdfWorld.database (PdfWorld.ingest library attempt world) =
      ingestPdf library attempt world.store := PdfWorld.ingest_simulates world
  unfold PdfWorld.pipelineScope pipelineScope
  cases attempt.faults .openSession with
  | some interruption => rfl
  | none =>
    dsimp only [Session.perform, Session.start]
    rw [← simulated]
    cases PdfWorld.ingest library attempt world with
    | ok document next => cases attempt.faults .commit <;> rfl
    | error failure next => cases failure <;> rfl

/-- A scope leaves every document shown, and the one it adds is shown by its attempt. -/
theorem shown_pipelineScope {attempts : List PdfAttempt}
    (plain : ∀ bytes, '/' ∉ (library.sha256 bytes).toList)
    (numbered : NumberedFromOne attempt.rendered)
    (shown : ∀ document ∈ world.store.documents, ∃ earlier ∈ attempts,
      ShownBy library world document earlier) :
    ∀ document ∈ (PdfWorld.pipelineScope library attempt world).1.store.documents,
      ∃ earlier ∈ attempts ++ [attempt],
        ShownBy library (PdfWorld.pipelineScope library attempt world).1 document earlier := by
  -- Older documents are shown as before, by the same attempts.
  have kept : ∀ next : PdfWorld,
      next.objects = (final (PdfWorld.ingest library attempt world)).objects →
      (∀ document ∈ world.store.documents,
        next.store.contentsOf document.id = world.store.contentsOf document.id) →
      ∀ document ∈ world.store.documents, ∃ earlier ∈ attempts ++ [attempt],
        ShownBy library next document earlier := by
    intro next objects contents document member
    obtain ⟨earlier, inside, held⟩ := shown document member
    exact ⟨earlier, List.mem_append_left _ inside,
      held.of_ingest plain member objects (contents document member)⟩
  have unopened : ∀ document ∈ world.store.documents, ∃ earlier ∈ attempts ++ [attempt],
      ShownBy library world document earlier := fun document member =>
    let ⟨earlier, inside, held⟩ := shown document member
    ⟨earlier, List.mem_append_left _ inside, held⟩
  unfold PdfWorld.pipelineScope
  split
  · exact unopened
  split
  · rename_i document next done
    split
    · -- The commit makes the document visible, if it is a new one.
      obtain ⟨⟨bytes, hashed, key⟩, ⟨same, -⟩ | added⟩ :=
        ingestPdf_eq_ok (PdfWorld.ingest_simulates.eq_ok done)
      · have store : next.store = world.store := same
        intro other member
        rw [store] at member
        exact kept next (by rw [done]; rfl) (fun _ _ => by rw [store]) other member
      -- A new document is shown by the attempt that has just been made.
      · have documents : next.store.documents = world.store.documents ++ [document] :=
          added.documents
        intro other member
        rw [documents, List.mem_append, List.mem_singleton] at member
        rcases member with older | rfl
        · refine kept next (by rw [done]; rfl) (fun earlier before => ?_) other older
          have less := world.store.documentIds_fresh earlier before
          have same := added.other_chunks earlier.id (by rw [added.row]; exact less.ne)
          exact congrArg (List.map fun chunk => (chunk.values, chunk.embedding)) same
        · exact ⟨attempt, by simp, shownBy_of_added hashed key numbered done added⟩
    · exact kept _ (by rw [done]; rfl) (fun _ _ => rfl)
  · rename_i error next done
    exact kept _ (by rw [done]; rfl) (fun _ _ => rfl)
  · rename_i next done
    exact kept _ (by rw [done]; rfl) (fun _ _ => rfl)

end Scopes

section Histories

/-- After some attempts every document is shown by one of them. -/
theorem shown_worldAfter (plain : ∀ bytes, '/' ∉ (library.sha256 bytes).toList)
    (attempts : List PdfAttempt)
    (numbered : ∀ attempt ∈ attempts, NumberedFromOne attempt.rendered) :
    ∀ document ∈ (worldAfter library attempts).store.documents, ∃ attempt ∈ attempts,
      ShownBy library (worldAfter library attempts) document attempt := by
  -- The induction is on the last attempt, which acts on what the others left.
  induction attempts using List.reverseRecOn with
  | nil => exact List.forall_mem_nil _
  | append_singleton earlier attempt ih =>
    obtain ⟨before, last⟩ := List.forall_mem_append.mp numbered
    have step := shown_pipelineScope plain (last attempt (List.mem_singleton_self attempt))
      (ih before)
    have reached : worldAfter library (earlier ++ [attempt]) =
        (PdfWorld.pipelineScope library attempt (worldAfter library earlier)).1 :=
      after_concat
    rw [reached]
    exact step

/-- The database after some handled files is the one their attempts lead to. -/
theorem store_of_trace {handled : List HandledFile} {store last : Store}
    (traced : Trace library store handled last) (starts : world.store = store) :
    (History.after (fun world attempt => (PdfWorld.pipelineScope library attempt world).1) world
      (handled.map HandledFile.attempt)).store = last := by
  induction handled generalizing world store with
  | nil => exact starts.trans traced
  | cons entry rest ih =>
    obtain ⟨-, handling, others⟩ := traced
    refine ih others ?_
    -- Each file leaves the rows that the log has recorded.
    have scope := store_pipelineScope library entry.attempt world
    rw [starts, handling] at scope
    exact congrArg Prod.fst scope

/-- After any history of runs the asset store has the file and the images of every document. -/
theorem assets_logAfter (library : PdfLibrary)
    (plain : ∀ bytes, '/' ∉ (library.sha256 bytes).toList) (history : List PdfRun)
    (rendered : ∀ entry ∈ (logAfter library .empty history).handled,
      ∃ file, entry.attempt.rendered = renderPages file) :
    let log := logAfter library .empty history
    let world := worldAfter library (log.handled.map HandledFile.attempt)
    world.store = log.store ∧ ∀ document ∈ log.store.documents, ∃ entry ∈ log.handled,
      ShownBy library world document entry.attempt := by
  intro log world
  have empty : (⟨.empty, []⟩ : PdfWorld).store = .empty := rfl
  have store : world.store = log.store :=
    store_of_trace (trace_logAfter library .empty history) empty
  refine ⟨store, fun document member => ?_⟩
  rw [← store] at member
  -- The images of every attempt are numbered as the rasterizer does it.
  have numbered : ∀ attempt ∈ log.handled.map HandledFile.attempt,
      NumberedFromOne attempt.rendered := by
    intro attempt inside
    obtain ⟨entry, handled, rfl⟩ := List.mem_map.mp inside
    obtain ⟨file, same⟩ := rendered entry handled
    rw [same]
    exact renderPages_numbered file
  obtain ⟨attempt, inside, shown⟩ := shown_worldAfter plain _ numbered document member
  obtain ⟨entry, handled, rfl⟩ := List.mem_map.mp inside
  exact ⟨entry, handled, shown⟩

end Histories

/-- The file with other images. -/
def repaintedFile : RasterFile :=
  -- The same pages with other images.
  { pikeFile with
    opened := .ok ([7, 8, 9].map fun image => ⟨.ok (), fun _ => .ok [image], .ok ()⟩) }

/-- An attempt that uploads the other images, and fails when it commits. -/
def uncommittedAttempt : PdfAttempt :=
  -- The first attempt uploads its images and then loses its rows.
  { pikePagesAttempt with
    rendered := renderPages repaintedFile
    faults := fun step => if step = .commit then some ⟨.other, id⟩ else none }

/-- A directory run that cannot commit, and a run on the file alone. -/
def pikeRetries : List PdfRun :=
  [.ingestDir ⟨true, [(uncommittedAttempt, true)]⟩, .ingest pikePagesAttempt]

/-- A library that knows the hash of one file only. -/
def pikeDigests : PdfLibrary :=
  { pikeLibrary with sha256 := fun bytes => if bytes = pikeBytes then pikeSha256 else "x" }

/-- The images of the attempt that failed are replaced by those of the one that is committed. -/
theorem assets_logAfter_pike :
    let log := logAfter pikeDigests .empty pikeRetries
    let world := worldAfter pikeDigests (log.handled.map HandledFile.attempt)
    world.object (pngKey pikeSha256 3) = some [3] ∧ world.store = log.store ∧
      ∀ document ∈ log.store.documents, ∃ entry ∈ log.handled,
        ShownBy pikeDigests world document entry.attempt := by
  intro log world
  -- Both attempts are handled, the second one by a run of its own.
  have handled : log.handled.map HandledFile.attempt = [uncommittedAttempt, pikePagesAttempt] := by
    have sorted :
        PdfDirectory.pdfs ⟨true, [(uncommittedAttempt, true)]⟩ = [uncommittedAttempt] := by
      simp [PdfDirectory.pdfs, Ranking.sortAsc]
    have first := (perform_spec pikeDigests .empty
      (show (PdfRun.ingestDir ⟨true, [(uncommittedAttempt, true)]⟩).WellDirected from rfl)).1
    have second := (perform_spec pikeDigests
      (logAfter pikeDigests .empty [.ingestDir ⟨true, [(uncommittedAttempt, true)]⟩]).store
      (show (PdfRun.ingest pikePagesAttempt).WellDirected from trivial)).1
    rw [PdfRun.targets, sorted] at first
    exact (List.map_append).trans (congrArg₂ (· ++ ·) first second)
  -- Neither branch of the digest writes a slash.
  have plain : ∀ bytes, '/' ∉ (pikeDigests.sha256 bytes).toList := by
    intro bytes
    dsimp only [pikeDigests]
    split <;> decide +kernel
  have rendered : ∀ entry ∈ log.handled, ∃ file, entry.attempt.rendered = renderPages file := by
    intro entry inside
    have among : entry.attempt ∈ [uncommittedAttempt, pikePagesAttempt] :=
      handled ▸ List.mem_map_of_mem inside
    -- Each of the two attempts was rendered from a file.
    rcases List.mem_cons.mp among with same | last
    · exact ⟨repaintedFile, by rw [same]; rfl⟩
    · exact ⟨pikeFile, by rw [List.mem_singleton.mp last]; rfl⟩
  refine ⟨?_, assets_logAfter pikeDigests plain pikeRetries rendered⟩
  show (worldAfter pikeDigests (log.handled.map HandledFile.attempt)).object
    (pngKey pikeSha256 3) = some [3]
  rw [handled]
  decide +kernel

end TorqueFinder
