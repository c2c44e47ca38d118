import TorqueFinder.Ingestion.IngestHtml

/-! The run of the command over its target publications, one after the other. -/

namespace TorqueFinder

open ExceptFlow Transaction

/-- What a run of the command leaves and reports. -/
structure BatchRun where
  database : Database
  /-- The publications that were attempted, with how the command was done with each. -/
  handled : List (RegisteredPublication × Handling)
  /-- The return code, or the exception that left the command. -/
  ended : Except IngestionFailure Nat

/-- The collaborators of the ingestion of each publication. -/
abbrev Pipelines := RegisteredPublication → HtmlIngestionPipeline

/-- The targets, or the ids on the command line that the registry does not know. -/
def selectTargets (registry : Registry) (pubIds : List String) :
    Except (List String) (List RegisteredPublication) :=
  -- Without names, everything new or changed is ingested.
  if pubIds = [] then
    .ok (registry.listAll.filter fun pub => pub.status = .discovered || pub.status = .stale)
  else
    let targets := registry.listAll.filter fun pub => pub.pubId ∈ pubIds
    -- An unknown name refuses the whole command.
    let missing := pubIds.filter fun pubId => pubId ∉ targets.map RegisteredPublication.pubId
    if missing = [] then .ok targets else .error (sortedSet missing)

/-- Ingest the targets, given the return code so far. -/
def ingestTargets (pipelines : Pipelines) (faults : RegisteredPublication → IngestFaults) :
    List RegisteredPublication → Database → Nat → BatchRun
  | [], database, code => { database, handled := [], ended := .ok code }
  | pub :: rest, database, code =>
    match runTarget (pipelines pub) (faults pub) pub database with
    | (next, .committed document) =>
      let run := ingestTargets pipelines faults rest next code
      { run with handled := (pub, .committed document) :: run.handled }
    | (next, .rolledBack error) =>
      let run := ingestTargets pipelines faults rest next 1
      { run with handled := (pub, .rolledBack error) :: run.handled }
    -- The loop catches no other exception, so the remaining targets are not attempted.
    | (next, .raised failure) =>
      { database := next, handled := [(pub, .raised failure)], ended := .error failure }

/-- Ingest the publications named on the command line, or all that are due. -/
def runIngestHtml (pipelines : Pipelines) (faults : RegisteredPublication → IngestFaults)
    (pubIds : List String) (database : Database) : BatchRun :=
  match selectTargets database.registry pubIds with
  -- The message goes to the standard error, and nothing is ingested.
  | .error _ => { database, handled := [], ended := .ok 2 }
  | .ok targets => ingestTargets pipelines faults targets database 0

/-- The exceptions a run meets before its first publication and after its last one. -/
structure CommandFaults where
  /-- The registry cannot be listed. -/
  listing : Option IngestionFailure := none
  /-- The fetcher cannot be closed. -/
  closing : Option IngestionFailure := none

/-- The command on publications, whatever happens around the publications. -/
def runIngestHtmlCommand (around : CommandFaults) (pipelines : Pipelines)
    (faults : RegisteredPublication → IngestFaults) (pubIds : List String) (database : Database) :
    BatchRun :=
  let run := match around.listing with
    | none => runIngestHtml pipelines faults pubIds database
    -- Without the registry no publication is attempted.
    | some failure => { database, handled := [], ended := .error failure }
  match around.closing with
  | none => run
  -- The fetcher is closed last, and an exception there takes the place of how the run ended.
  | some failure => { run with ended := .error failure }

/-- No step is ended by an exception that has its cause outside the ingestion. -/
def noFaults : IngestFaults := fun _ => none

/-- How the command is done with the outcome of an ingestion. -/
def handleOutcome (database : Database) :
    Except IngestionFailure (Database × IndexedDocument) → Database × Handling
  | .ok (next, document) => (next, .committed document)
  | .error (.ingestion error) => (database, .rolledBack error)
  -- Only errors of the ingestion are caught.
  | .error failure => (database, .raised failure)

variable {pipeline : HtmlIngestionPipeline} {pub : RegisteredPublication} {library : PageLibrary}
  {database : Database}

/-- Without a fault the insertions end as the pipeline's do. -/
theorem outcome_insertSteps (documentId : Int) (place : Nat)
    (contents : List (ChunkValues × Embedding)) (database : Database) :
    outcome (insertSteps library noFaults documentId place contents database) =
      (insertChunks documentId database.store contents).mapError (repositoryFailure library) >>=
        fun store => .ok ({ database with store }, ()) := by
  -- Each insertion ends the same way, and the rest goes on from the same store.
  induction contents generalizing place database with
  | nil => rfl
  | cons content rest ih =>
    obtain ⟨values, embedding⟩ := content
    simp only [insertSteps, noFaults, interruptible_none, outcome_bind, onStore, outcome_call,
      insertChunks]
    cases database.store.insertChunk documentId values embedding with
    | error failure => rfl
    | ok done => exact ih _ _

/-- Without a fault the steps of an ingestion end as the pipeline does. -/
theorem outcome_ingestSteps (pipeline : HtmlIngestionPipeline) (pub : RegisteredPublication)
    (database : Database) :
    outcome (ingestSteps pipeline noFaults pub database) =
      ingestPublication pipeline pub database := by
  simp only [ingestSteps, outcome_bind, outcome_compute, noFaults, interruptible_none]
  unfold ingestPublication fetchPage
  cases pipeline.fetch pub.sourceUrl with
  | none => rfl
  | some html =>
    simp only [ingestFetched, ok_bind]
    cases parsePublication pipeline.library html pub.sourceUrl with
    | error failure => rfl
    -- A page without chunks ends both before the database is touched.
    | ok parsed =>
      simp only [ok_bind]
      split
      · rfl
      · simp only [outcome_bind, outcome_compute]
        cases embedChunks pipeline pub.pubId parsed.chunks with
        | error failure => rfl
        | ok embeddings =>
          simp only [ok_bind, storeParsed, onStore, flipStatus, outcome_call]
          -- The statements on the database follow in the same order.
          cases database.store.upsertDocument pipeline.order .html
              (if parsed.title = "" then pub.title else parsed.title) pub.sourceUrl pub.pubId with
          | error failure => rfl
          | ok upserted =>
            obtain ⟨store, document⟩ := upserted
            change (outcome (insertSteps pipeline.library noFaults document.id 0
              (parsed.contents embeddings) _) >>= _) = _
            -- Without failures the inserts are those of the pipeline.
            rw [outcome_insertSteps]
            simp only [ok_bind]
            cases insertChunks document.id (store.deleteChunks document.id).1
                (parsed.contents embeddings) with
            | error failure => rfl
            | ok filled =>
              change ((database.registry.setStatus pub.pubId .ingested).mapError _ >>= _) >>= _ =
                (database.registry.setStatus pub.pubId .ingested).mapError _ >>= _
              cases database.registry.setStatus pub.pubId .ingested <;> rfl

/-- Without a fault the command handles the outcome of the pipeline. -/
theorem runTarget_noFaults (pipeline : HtmlIngestionPipeline) (pub : RegisteredPublication)
    (database : Database) :
    runTarget pipeline noFaults pub database =
      handleOutcome database (ingestPublication pipeline pub database) := by
  -- A session that starts on the database commits the working copy or nothing.
  rw [← outcome_ingestSteps]
  simp only [runTarget, Session.perform, Session.start]
  cases ingestSteps pipeline noFaults pub database with
  | ok document next => rfl
  | error failure left => cases failure <;> rfl

/-- The document a publication was committed as. -/
def Handling.document : Handling → Option IndexedDocument
  -- Only a commit leaves a document.
  | .committed document => some document
  | _ => none

/-- What is left when each target is ingested on its own, and the document each became. -/
def ingestEach (pipelines : Pipelines) :
    List RegisteredPublication → Database →
      Database × List (RegisteredPublication × Option IndexedDocument)
  | [], database => (database, [])
  | pub :: rest, database =>
    match ingestPublication (pipelines pub) pub database with
    | .ok (next, document) =>
      let (final, others) := ingestEach pipelines rest next
      (final, (pub, some document) :: others)
    -- A publication that fails leaves nothing and is no reason to stop.
    | .error _ =>
      let (final, others) := ingestEach pipelines rest database
      (final, (pub, none) :: others)

/-- A run attempts every target, and one that fails is rolled back without touching the others. -/
structure FailAlone (pipelines : Pipelines) (targets : List RegisteredPublication)
    (before : Database) (code : Nat) (run : BatchRun) : Prop where
  attempted : run.handled.map Prod.fst = targets
  /-- Exactly the targets that can be ingested are committed. -/
  committed : run.handled.map (fun entry => (entry.1, entry.2.document)) =
    (ingestEach pipelines targets before).2
  rolled_back : ∀ entry ∈ run.handled, entry.2.document = none →
    ∃ error, entry.2 = .rolledBack error
  database : run.database = (ingestEach pipelines targets before).1
  /-- The return code is the one before the run, unless a target failed. -/
  ended : run.ended = .ok
    (if (ingestEach pipelines targets before).2.any (fun entry => entry.2.isNone) then 1 else code)

/-- An ingestion succeeds or raises the error its callers expect. -/
def OnlyIngestionErrors {α : Type*} (result : Except IngestionFailure α) : Prop :=
  ∀ failure, result = .error failure → ∃ error, failure = .ingestion error

variable {pipelines : Pipelines} {targets : List RegisteredPublication} {code : Nat}
  {next : Database} {document : IndexedDocument} {failure : IngestionFailure}

/-- A committed publication became its document. -/
@[simp] theorem Handling.document_committed :
    (Handling.committed document).document = some document := rfl

/-- A publication that was rolled back became none. -/
@[simp] theorem Handling.document_rolledBack {error : IngestionError} :
    (Handling.rolledBack error).document = none := rfl

/-- A target that can be ingested is the first of those that are left. -/
theorem ingestEach_ok (rest : List RegisteredPublication)
    (ingested : ingestPublication (pipelines pub) pub database = .ok (next, document)) :
    ingestEach pipelines (pub :: rest) database =
      ((ingestEach pipelines rest next).1,
        (pub, some document) :: (ingestEach pipelines rest next).2) := by
  -- The document is committed before the next publication.
  simp [ingestEach, ingested]

/-- A target that cannot be ingested leaves the database to the others. -/
theorem ingestEach_error (rest : List RegisteredPublication)
    (failed : ingestPublication (pipelines pub) pub database = .error failure) :
    ingestEach pipelines (pub :: rest) database =
      ((ingestEach pipelines rest database).1,
        (pub, none) :: (ingestEach pipelines rest database).2) := by
  -- A failure leaves the database to the next publication.
  simp [ingestEach, failed]

/-- The targets that raise nothing unexpected fail alone. -/
theorem failAlone_of_onlyIngestionErrors
    (expected : ∀ pub ∈ targets, ∀ database,
      OnlyIngestionErrors (ingestPublication (pipelines pub) pub database)) :
    FailAlone pipelines targets database code
      (ingestTargets pipelines (fun _ => noFaults) targets database code) := by
  -- A committed target hands on the code, and one that was rolled back sets it.
  induction targets generalizing database code with
  | nil => exact ⟨rfl, rfl, by simp [ingestTargets], rfl, rfl⟩
  | cons pub rest ih =>
    have later : ∀ other ∈ rest, ∀ database,
        OnlyIngestionErrors (ingestPublication (pipelines other) other database) :=
      fun other member => expected other (List.mem_cons_of_mem _ member)
    rw [ingestTargets, runTarget_noFaults]
    cases ingested : ingestPublication (pipelines pub) pub database with
    | ok done =>
      obtain ⟨next, document⟩ := done
      have tail : FailAlone pipelines rest next code
          (ingestTargets pipelines (fun _ => noFaults) rest next code) := ih later
      have each := ingestEach_ok rest ingested
      exact
        { attempted := by simp [handleOutcome, tail.attempted]
          committed := by simp [handleOutcome, each, tail.committed]
          rolled_back := by simpa [handleOutcome] using tail.rolled_back
          database := by simp [handleOutcome, each, tail.database]
          ended := by
            rw [each, handleOutcome, List.any_cons, Option.isNone_some, Bool.false_or]
            exact tail.ended }
    -- The next target starts from the same database.
    | error failure =>
      obtain ⟨error, rfl⟩ := expected pub List.mem_cons_self database failure ingested
      have tail : FailAlone pipelines rest database 1
          (ingestTargets pipelines (fun _ => noFaults) rest database 1) := ih later
      have each := ingestEach_error rest ingested
      exact
        { attempted := by simp [handleOutcome, tail.attempted]
          committed := by simp [handleOutcome, each, tail.committed]
          rolled_back := by simpa [handleOutcome] using tail.rolled_back
          database := by simp [handleOutcome, each, tail.database]
          ended := by simp [handleOutcome, each, tail.ended] }

/-- A target that raises something unexpected ends the run with it. -/
theorem ended_of_unexpected {raising : RegisteredPublication} (member : raising ∈ targets)
    (unexpected : ∀ database,
      ¬ OnlyIngestionErrors (ingestPublication (pipelines raising) raising database)) :
    ∃ failure, (ingestTargets pipelines (fun _ => noFaults) targets database code).ended =
      .error failure := by
  -- Either an earlier target ends the run, or it reaches this one.
  induction targets generalizing database code with
  | nil => cases member
  | cons pub rest ih =>
    rw [ingestTargets, runTarget_noFaults]
    cases ingested : ingestPublication (pipelines pub) pub database with
    | ok done =>
      rcases List.mem_cons.mp member with rfl | later
      · exact absurd (fun failure failed => by simp [ingested] at failed) (unexpected database)
      · exact ih later
    | error failure =>
      cases failure with
      | ingestion error =>
        rcases List.mem_cons.mp member with rfl | later
        · refine absurd (fun failure failed => ?_) (unexpected database)
          exact ⟨error, Except.error.inj (failed.symm.trans ingested)⟩
        · exact ih later
      | database => exact ⟨_, rfl⟩
      | uncaught exception => exact ⟨_, rfl⟩

end TorqueFinder
