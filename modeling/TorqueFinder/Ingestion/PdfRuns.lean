import Mathlib.Data.String.Basic
import TorqueFinder.Ingestion.PdfPipeline
import TorqueFinder.Lib.History
import TorqueFinder.Lib.StableSort

/-! Histories of the commands that ingest one PDF or a directory of them. -/

namespace TorqueFinder

open Transaction History Ranking

/-- How a command is done with a file. -/
inductive FileResult where
  /-- The ingestion succeeded and was committed. -/
  | indexed (document : IndexedDocument)
  /-- The ingestion failed with the error the command reports. -/
  | failed (error : IngestionError)
  /-- Another exception ended the ingestion or its commit. -/
  | raised
  deriving DecidableEq

/-- Ingest one file in a scope that owns a session, and commit it or roll it back. -/
def pipelineScope (library : PdfLibrary) (attempt : PdfAttempt) (store : Store) :
    Store × FileResult :=
  match attempt.faults .openSession with
  | some _ => (store, .raised)
  | none =>
    match (Session.start store).perform (ingestPdf library attempt) with
    | (.ok document, session) =>
      match attempt.faults .commit with
      | none => (session.commit.close, .indexed document)
      -- A failed commit has committed nothing.
      | some _ => (session.rollback.close, .raised)
    | (.error (.ingestion error), session) => (session.rollback.close, .failed error)
    | (.error .other, session) => (session.rollback.close, .raised)

/-- A file a command was done with, and the store before and after it. -/
structure HandledFile where
  attempt : PdfAttempt
  before : Store
  after : Store
  result : FileResult

/-- What a run of a command leaves and reports. -/
structure PdfReport where
  store : Store
  handled : List HandledFile
  /-- The return code, or the exception that left the command. -/
  ended : Except PdfFailure Nat

/-- Ingest a single file. -/
def runIngestOne (library : PdfLibrary) (attempt : PdfAttempt) (store : Store) : PdfReport :=
  let (next, result) := pipelineScope library attempt store
  { store := next
    handled := [⟨attempt, store, next, result⟩]
    ended :=
      match result with
      | .indexed _ => .ok 0
      | .failed _ => .ok 1
      -- The command catches errors of the ingestion alone.
      | .raised => .error .other }

/-- A directory as the command finds it. -/
structure PdfDirectory where
  isDir : Bool
  /-- The entries whose names end in `.pdf`, with whether each was a file when it was listed. -/
  entries : List (PdfAttempt × Bool)

/-- The files to ingest, sorted by name. -/
def PdfDirectory.pdfs (directory : PdfDirectory) : List PdfAttempt :=
  sortAsc PdfAttempt.name ((directory.entries.filter Prod.snd).map Prod.fst)

/-- Ingest the files one after the other, given the return code so far. -/
def ingestFiles (library : PdfLibrary) : List PdfAttempt → Store → Nat → PdfReport
  | [], store, code => { store, handled := [], ended := .ok code }
  | attempt :: rest, store, code =>
    let (next, result) := pipelineScope library attempt store
    let nextCode :=
      match result with
      | .indexed _ => max code 0
      | .failed _ => max code 1
      | .raised => 1
    -- Every exception is caught inside the loop, so the next file has its turn.
    let report := ingestFiles library rest next nextCode
    { report with handled := ⟨attempt, store, next, result⟩ :: report.handled }

/-- Ingest every PDF of a directory. -/
def runIngestDir (library : PdfLibrary) (directory : PdfDirectory) (store : Store) : PdfReport :=
  -- The files are taken in sorted order.
  if directory.isDir = false then { store, handled := [], ended := .ok 2 }
  else ingestFiles library directory.pdfs store 0

/-- A run of one of the commands. -/
inductive PdfRun where
  | ingest (attempt : PdfAttempt)
  | ingestDir (directory : PdfDirectory)

/-- What a run leaves and reports. -/
def PdfRun.perform (library : PdfLibrary) (store : Store) : PdfRun → PdfReport
  -- There is a command for one file and one for a directory.
  | .ingest attempt => runIngestOne library attempt store
  | .ingestDir directory => runIngestDir library directory store

/-- The committed store, and all files that were handled on the way to it. -/
structure PdfLog where
  store : Store
  handled : List HandledFile

/-- The log after one more run. -/
def PdfLog.extend (library : PdfLibrary) (log : PdfLog) (run : PdfRun) : PdfLog :=
  -- The next run starts from what this one has left.
  let report := run.perform library log.store
  ⟨report.store, log.handled ++ report.handled⟩

/-- The log after a history of runs on a store. -/
def logAfter (library : PdfLibrary) (initial : Store) (history : List PdfRun) : PdfLog :=
  after (PdfLog.extend library) ⟨initial, []⟩ history

/-- The files were handled one after the other, each on the store the one before it left. -/
def Trace (library : PdfLibrary) : Store → List HandledFile → Store → Prop
  -- Each file starts from the rows that the file before it has left.
  | store, [], final => store = final
  | store, entry :: rest, final =>
    entry.before = store ∧
      pipelineScope library entry.attempt store = (entry.after, entry.result) ∧
        Trace library entry.after rest final

/-- Every document is still there with its chunks, unchanged. -/
def Keeps (before after : Store) : Prop :=
  -- Nothing that was indexed is changed.
  ∀ document ∈ before.documents, document ∈ after.documents ∧
    after.ownedChunks document.id = before.ownedChunks document.id

variable {library : PdfLibrary} {attempt : PdfAttempt} {store before middle next final : Store}
  {document : IndexedDocument} {handled : List HandledFile} {entry : HandledFile}

/-- Nothing is lost where nothing changes. -/
theorem Keeps.refl (store : Store) : Keeps store store := fun _ member => ⟨member, rfl⟩

/-- What two steps keep, both together keep. -/
theorem Keeps.trans (first : Keeps before middle) (second : Keeps middle final) :
    Keeps before final := by
  -- A document that stays keeps its chunks both times.
  intro document member
  obtain ⟨stays, chunks⟩ := first document member
  obtain ⟨remains, same⟩ := second document stays
  exact ⟨remains, same.trans chunks⟩

/-- A new document touches no other. -/
theorem AddsDocument.keeps (added : AddsDocument library attempt before next document) :
    Keeps before next := by
  -- The new id is larger than all others.
  intro other member
  have less : other.id < document.id := by
    rw [added.row]
    exact before.documentIds_fresh other member
  exact ⟨added.documents ▸ List.mem_append_left _ member, added.other_chunks _ less.ne⟩

/-- Handling a file leaves the store, or commits one new document for it. -/
theorem pipelineScope_cases (library : PdfLibrary) (attempt : PdfAttempt) (store : Store) :
    ((pipelineScope library attempt store).1 = store ∧
      ∀ document, (pipelineScope library attempt store).2 = .indexed document →
        store.getDocumentBySourceRef document.sourceRef = some document) ∨
    ∃ document, (pipelineScope library attempt store).2 = .indexed document ∧
      (∃ bytes, attempt.hashed = .ok bytes ∧ document.sourceRef = library.sha256 bytes) ∧
        AddsDocument library attempt store (pipelineScope library attempt store).1 document := by
  unfold pipelineScope
  split
  · exact .inl ⟨rfl, by simp⟩
  cases performed : (Session.start store).perform (ingestPdf library attempt) with
  | mk outcome session =>
    have kept : session.committed = store := Session.committed_of_perform performed
    cases outcome with
    | error failure =>
      -- A rollback leaves what was committed before.
      cases failure with
      | ingestion error => exact .inl ⟨kept, by simp⟩
      | other => exact .inl ⟨kept, by simp⟩
    | ok document =>
      dsimp only
      split
      · have done : ingestPdf library attempt store = .ok document session.working :=
          Session.perform_eq_ok performed
        obtain ⟨hashed, ⟨same, found⟩ | added⟩ := ingestPdf_eq_ok done
        · refine .inl ⟨same, fun other indexed => ?_⟩
          obtain rfl := FileResult.indexed.inj indexed
          exact found
        · exact .inr ⟨document, rfl, hashed, added⟩
      · exact .inl ⟨kept, by simp⟩

/-- Handling a file keeps every document. -/
theorem keeps_pipelineScope (library : PdfLibrary) (attempt : PdfAttempt) (store : Store) :
    Keeps store (pipelineScope library attempt store).1 := by
  -- A scope that commits adds one document to those that were there.
  rcases pipelineScope_cases library attempt store with ⟨same, _⟩ | ⟨document, _, _, added⟩
  · rw [same]
    exact .refl store
  · exact added.keeps

/-- A file whose content has a document leaves the store. -/
theorem store_of_known {bytes : List UInt8} (hashed : attempt.hashed = .ok bytes)
    (known : store.getDocumentBySourceRef (library.sha256 bytes) ≠ none) :
    (pipelineScope library attempt store).1 = store := by
  rcases pipelineScope_cases library attempt store with
    ⟨same, _⟩ | ⟨document, _, ⟨other, alsoHashed, key⟩, added⟩
  · exact same
  · -- The document that was added would have been found.
    obtain rfl := Except.ok.inj (hashed.symm.trans alsoHashed)
    exact absurd (key ▸ added.new) known

/-- Files that are handled one after the other, and then others, are handled in that order. -/
theorem Trace.append {later : List HandledFile} (first : Trace library store handled middle)
    (second : Trace library middle later final) :
    Trace library store (handled ++ later) final := by
  -- The first files are taken off one by one.
  induction handled generalizing store with
  | nil =>
    cases first
    exact second
  | cons entry rest ih =>
    obtain ⟨start, handling, others⟩ := first
    exact ⟨start, handling, ih others⟩

/-- The files of a loop are handled one after the other. -/
theorem trace_ingestFiles (library : PdfLibrary) (files : List PdfAttempt) (store : Store)
    (code : Nat) :
    Trace library store (ingestFiles library files store code).handled
      (ingestFiles library files store code).store := by
  -- The loop hands the store from file to file.
  induction files generalizing store code with
  | nil => rfl
  | cons attempt rest ih => exact ⟨rfl, rfl, ih _ _⟩

/-- The files of a run are handled one after the other. -/
theorem trace_perform (library : PdfLibrary) (store : Store) (run : PdfRun) :
    Trace library store (run.perform library store).handled (run.perform library store).store := by
  -- One file is a trace of length one.
  cases run with
  | ingest attempt => exact ⟨rfl, rfl, rfl⟩
  | ingestDir directory =>
    rw [PdfRun.perform, runIngestDir]
    split
    · rfl
    · exact trace_ingestFiles library _ store 0

/-- The files of a history are handled one after the other. -/
theorem trace_logAfter (library : PdfLibrary) (initial : Store) (history : List PdfRun) :
    Trace library initial (logAfter library initial history).handled
      (logAfter library initial history).store := by
  -- Every run goes on from the store the history before it left.
  unfold logAfter
  refine follows (fun _ (log : PdfLog) => Trace library initial log.handled log.store) ?_
    (fun history run traced => ?_) history
  · rfl
  · exact traced.append (trace_perform library _ run)

/-- Handling files keeps every document. -/
theorem Trace.keeps (traced : Trace library store handled final) : Keeps store final := by
  -- Each file keeps what was there before it.
  induction handled generalizing store with
  | nil =>
    cases traced
    exact .refl _
  | cons entry rest ih =>
    obtain ⟨_, handling, others⟩ := traced
    have kept := keeps_pipelineScope library entry.attempt store
    rw [handling] at kept
    exact kept.trans (ih others)

/-- More runs keep every document. -/
theorem keeps_logAfter (library : PdfLibrary) (initial : Store) (history later : List PdfRun) :
    Keeps (logAfter library initial history).store
      (logAfter library initial (history ++ later)).store := by
  -- The later runs start from the store of the earlier ones.
  rw [logAfter, logAfter, after_append]
  refine follows (fun _ (log : PdfLog) => Keeps (logAfter library initial history).store log.store)
    (.refl _) (fun _ run kept => ?_) later
  exact kept.trans (trace_perform library _ run).keeps

/-- The document was added by a complete ingestion among the handled ones, and not touched since. -/
def IndexedBy (library : PdfLibrary) (final : Store) (document : IndexedDocument)
    (entry : HandledFile) : Prop :=
  -- The file that has added a document, and what it has added is still there.
  entry.result = .indexed document ∧
    (∃ bytes, entry.attempt.hashed = .ok bytes ∧ document.sourceRef = library.sha256 bytes) ∧
      AddsDocument library entry.attempt entry.before entry.after document ∧
        final.ownedChunks document.id = entry.after.ownedChunks document.id

/-- A document was there before, or one of the handled files was indexed as it. -/
theorem Trace.origin (traced : Trace library store handled final)
    (member : document ∈ final.documents) :
    (document ∈ store.documents ∧
      final.ownedChunks document.id = store.ownedChunks document.id) ∨
    ∃ entry ∈ handled, IndexedBy library final document entry := by
  induction handled generalizing store with
  | nil =>
    cases traced
    exact .inl ⟨member, rfl⟩
  | cons entry rest ih =>
    obtain ⟨start, handling, others⟩ := traced
    rcases ih others with ⟨present, chunks⟩ | ⟨later, inside, indexed⟩
    · -- A document that was there after the first file is older, or is the one the file became.
      have cases := pipelineScope_cases library entry.attempt store
      rw [handling] at cases
      rcases cases with ⟨same, _⟩ | ⟨new, result, hashed, added⟩
      · dsimp only at same
        rw [same] at present chunks
        exact .inl ⟨present, chunks⟩
      · rw [added.documents, List.mem_append, List.mem_singleton] at present
        rcases present with older | rfl
        · exact .inl ⟨older, chunks.trans (added.keeps document older).2⟩
        · exact .inr ⟨entry, List.mem_cons_self, result, hashed, start ▸ added, chunks⟩
    · exact .inr ⟨later, List.mem_cons_of_mem _ inside, indexed⟩

/-- Every handled file was handled on the store before it. -/
theorem Trace.performed (traced : Trace library store handled final) (member : entry ∈ handled) :
    pipelineScope library entry.attempt entry.before = (entry.after, entry.result) := by
  -- The store before a later file is what the earlier ones have left.
  induction handled generalizing store with
  | nil => cases member
  | cons first rest ih =>
    obtain ⟨start, handling, others⟩ := traced
    rcases List.mem_cons.mp member with rfl | later
    · rw [start]
      exact handling
    · exact ih others later

/-- The loop attempts every file, and keeps the code zero as long as none fails. -/
theorem ingestFiles_spec (library : PdfLibrary) (files : List PdfAttempt) (store : Store)
    (code : Nat) :
    (ingestFiles library files store code).handled.map HandledFile.attempt = files ∧
      ((ingestFiles library files store code).ended = .ok 0 ↔
        code = 0 ∧ ∀ entry ∈ (ingestFiles library files store code).handled,
          ∃ document, entry.result = .indexed document) := by
  induction files generalizing store code with
  | nil => simp [ingestFiles]
  | cons attempt rest ih =>
    rw [ingestFiles]
    cases pipelineScope library attempt store with
    | mk next result =>
      -- An indexed file leaves the code, and any other one makes it positive for good.
      cases result with
      | indexed document => simpa using ih next (max code 0)
      | failed error => simpa using ih next (max code 1)
      | raised => simpa using ih next 1

/-- The files a run is about. -/
def PdfRun.targets : PdfRun → List PdfAttempt
  -- Only the files of the directory that are PDFs count.
  | .ingest attempt => [attempt]
  | .ingestDir directory => directory.pdfs

/-- A run over a directory is given one. -/
def PdfRun.WellDirected : PdfRun → Prop
  -- A directory that does not exist ends the run.
  | .ingest _ => True
  | .ingestDir directory => directory.isDir = true

/-- A run attempts every one of its files, and returns zero when none of them fails. -/
theorem perform_spec (library : PdfLibrary) (store : Store) {run : PdfRun}
    (directed : run.WellDirected) :
    (run.perform library store).handled.map HandledFile.attempt = run.targets ∧
      ((run.perform library store).ended = .ok 0 ↔
        ∀ entry ∈ (run.perform library store).handled,
          ∃ document, entry.result = .indexed document) := by
  -- A run on a file is a loop over that file alone, except for how it ends.
  cases run with
  | ingest attempt =>
    rw [PdfRun.perform, runIngestOne]
    cases pipelineScope library attempt store with
    | mk next result => cases result <;> simp [PdfRun.targets]
  | ingestDir directory =>
    have found : directory.isDir = true := directed
    rw [PdfRun.perform, runIngestDir, found]
    simpa [PdfRun.targets] using ingestFiles_spec library directory.pdfs store 0

/-- Every document has the chunks of one complete ingestion, and every other attempt no effect. -/
structure IndexesOnce (library : PdfLibrary) (initial : Store) (log : PdfLog) : Prop where
  one_document : (log.store.documents.map IndexedDocument.sourceRef).Nodup
  in_order : Trace library initial log.handled log.store
  /-- A document that was not there at the start has the chunks of a file with its hash. -/
  complete : ∀ document ∈ log.store.documents,
    (document ∈ initial.documents ∧
      log.store.contentsOf document.id = initial.contentsOf document.id) ∨
    ∃ entry ∈ log.handled, entry.result = .indexed document ∧
      document.title = entry.attempt.name ∧
        (∀ bytes, library.sha256 bytes = document.sourceRef ↔
          entry.attempt.hashed = .ok bytes) ∧
          CompleteIngest library entry.attempt document.sourceRef
            (log.store.contentsOf document.id)
  failing : ∀ entry ∈ log.handled, (∀ document, entry.result ≠ .indexed document) →
    entry.after = entry.before
  repeated : ∀ entry ∈ log.handled, ∀ bytes, entry.attempt.hashed = .ok bytes →
    entry.before.getDocumentBySourceRef (library.sha256 bytes) ≠ none →
      entry.after = entry.before

/-- After any history of runs every file content is indexed as a whole, once and for all. -/
theorem pdf_ingestion_atomic (library : PdfLibrary)
    (injective : Function.Injective library.sha256) (initial : Store) (history : List PdfRun) :
    IndexesOnce library initial (logAfter library initial history) ∧
    (∀ later, Keeps (logAfter library initial history).store
      (logAfter library initial (history ++ later)).store) ∧
    ∀ run : PdfRun, run.WellDirected →
      (run.perform library (logAfter library initial history).store).handled.map
          HandledFile.attempt = run.targets ∧
        ((run.perform library (logAfter library initial history).store).ended = .ok 0 ↔
          ∀ entry ∈ (run.perform library (logAfter library initial history).store).handled,
            ∃ document, entry.result = .indexed document) := by
  have traced := trace_logAfter library initial history
  refine ⟨?_, keeps_logAfter library initial history, fun run => perform_spec library _⟩
  exact
    { one_document := Store.sourceRefs_nodup _
      in_order := traced
      complete := by
        intro document member
        rcases traced.origin member with ⟨older, chunks⟩ | ⟨entry, inside, indexed⟩
        · exact .inl ⟨older, by rw [Store.contentsOf, chunks]; rfl⟩
        · obtain ⟨result, ⟨bytes, hashed, key⟩, added, chunks⟩ := indexed
          refine .inr ⟨entry, inside, result, by rw [added.row], fun other => ?_, ?_⟩
          · -- Only the bytes that were hashed have that hash.
            rw [hashed, key, Except.ok.injEq]
            exact ⟨fun same => (injective same).symm, fun same => by rw [same]⟩
          · rw [Store.contentsOf, chunks]
            exact added.complete
      -- A file that is not indexed leaves the store.
      failing := by
        intro entry member never
        have handling := traced.performed member
        rcases pipelineScope_cases library entry.attempt entry.before with
          ⟨same, _⟩ | ⟨document, result, _⟩
        · rwa [handling] at same
        · rw [handling] at result
          exact absurd result (never document)
      -- So does a file whose hash is known.
      repeated := by
        intro entry member bytes hashed known
        have same := store_of_known hashed known
        rwa [traced.performed member] at same }

/-- The bytes of a file. -/
def pikeBytes : List UInt8 := [37, 80, 68, 70, 45, 49, 46, 55]

/-- The hash of these bytes. -/
def pikeSha256 : String := "86edbaa24831badfa0a8b04bb410141e2ee4182b6d0014493fe262a7a331c20b"

/-- A library that knows the hash of these bytes and marks all others. -/
def pikeLibrary : PdfLibrary where
  -- The digest tells the manual from all other files.
  sha256 bytes :=
    if bytes = pikeBytes then pikeSha256
    else String.ofList ('x' :: bytes.map fun byte => Char.ofNat byte.toNat)
  repr text := "'" ++ text ++ "'"

/-- No two files have the same hash there. -/
theorem pikeLibrary_injective : Function.Injective pikeLibrary.sha256 := by
  -- A marked hash starts with a letter that is no digit, and spells the bytes.
  have spelled : Function.Injective fun byte : UInt8 => Char.ofNat byte.toNat := by
    intro first second same
    have code : ∀ byte : UInt8, (Char.ofNat byte.toNat).toNat = byte.toNat := fun byte => by
      have valid : byte.toNat.isValidChar := .inl (byte.toNat_lt.trans (by decide))
      rw [Char.ofNat, dif_pos valid]
      rfl
    have codes := congrArg Char.toNat same
    dsimp only at codes
    rw [code, code] at codes
    exact UInt8.toNat_inj.mp codes
  have known : ∀ bytes : List UInt8,
      String.ofList ('x' :: bytes.map fun byte => Char.ofNat byte.toNat) ≠ pikeSha256 := by
    intro bytes same
    have heads := congrArg (fun text : String => text.toList.head?) same
    simp only [String.toList_ofList, List.head?_cons] at heads
    exact absurd heads (by decide +kernel)
  intro first second same
  simp only [pikeLibrary] at same
  split at same
  · rename_i left
    split at same
    · rename_i right
      rw [left, right]
    · exact absurd same.symm (known second)
  · split at same
    · exact absurd same (known first)
    · have letters := List.cons.inj (String.ofList_injective same)
      exact List.map_injective_iff.mpr spelled letters.2

/-- An attempt on that file, given what the renderer yields. -/
def pikeAttempt (rendered : List (Except PdfFailure (Nat × List UInt8))) : PdfAttempt where
  -- Everything but the rendering succeeds.
  path := "manuals/pike.pdf"
  name := "pike.pdf"
  isFile := true
  hashed := .ok pikeBytes
  readBytes := .ok pikeBytes
  accepts _ _ _ := true
  parsePdf := .ok [⟨1, "Top cap 7.3 N-m"⟩]
  order := .textual
  embedDocuments texts := .ok (texts.map fun _ => [])
  renderPages := .ok ()
  rendered
  faults _ := none

/-- A directory run that fails behind the first page, and a run on the file alone. -/
def pikeHistory : List PdfRun :=
  -- The renderer of the first run raises after one page.
  [.ingestDir ⟨true, [(pikeAttempt [.ok (1, [137]), .error .other], true)]⟩,
    .ingest (pikeAttempt [.ok (1, [137]), .ok (2, [137])])]

/-- The results of these runs, and what is indexed at their end. -/
theorem pdf_ingestion_atomic_pike :
    ((logAfter pikeLibrary .empty pikeHistory).handled.map HandledFile.result,
      (logAfter pikeLibrary .empty pikeHistory).store.documents.map IndexedDocument.sourceRef) =
        ([.failed ⟨"render failed for manuals/pike.pdf"⟩,
          .indexed
            { id := 1, sourceType := .pdf, title := "pike.pdf", sourceUrl := pdfKey pikeSha256
              sourceRef := pikeSha256, productFamily := some "pike", brand := none }],
          [pikeSha256]) ∧
    IndexesOnce pikeLibrary .empty (logAfter pikeLibrary .empty pikeHistory) :=
  -- The failed run leaves nothing that the second one would find.
  ⟨by decide +kernel, (pdf_ingestion_atomic pikeLibrary pikeLibrary_injective _ _).1⟩

end TorqueFinder
