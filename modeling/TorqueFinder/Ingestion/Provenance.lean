import TorqueFinder.Ingestion.ExitCodes

/-! Where the stored texts come from: one complete ingestion, and nothing has touched them since. -/

namespace TorqueFinder

open History

/-- A command on a database made these the contents of the document with a key. -/
def Command.Ingests (library : PdfLibrary) (before : Database) (key : String)
    (contents : List (ChunkValues × Embedding)) : Command → Prop
  | .ingestPdf run _ => ∃ attempt ∈ run.targets, CompleteIngest library attempt key contents
  -- The publication is one of those the registry had for the command line.
  | .ingestHtml pipelines faults pubIds => ∃ targets,
      selectTargets before.registry pubIds = .ok targets ∧ ∃ pub ∈ targets, pub.pubId = key ∧
        ∃ parsed embeddings, StepsSucceed (pipelines pub) (faults pub) pub parsed embeddings ∧
          contents = parsed.contents embeddings
  -- The other commands write no text.
  | .discover _ _ => False
  | .backfill _ _ _ => False

/-- The document with a key has these contents. -/
def Database.Holds (database : Database) (key : String)
    (contents : List (ChunkValues × Embedding)) : Prop :=
  -- The contents of a document with this reference.
  ∃ document ∈ database.store.documents, document.sourceRef = key ∧
    database.store.contentsOf document.id = contents

/-- The contents come from a command of the history, and have been there ever since. -/
def ComesFrom (library : PdfLibrary) (history : List Command) (key : String)
    (contents : List (ChunkValues × Embedding)) : Prop :=
  -- From the command that made them on, the contents were never gone.
  ∃ earlier command later, history = earlier ++ command :: later ∧
    command.Ingests library (databaseAfter library earlier) key contents ∧
      ∀ middle, middle <+: later →
        (databaseAfter library (earlier ++ command :: middle)).Holds key contents

/-- The contents of every document come from a command of the history. -/
def Traceable (library : PdfLibrary) (history : List Command) : Prop :=
  -- The contents are those that are stored in the end.
  ∀ document ∈ (databaseAfter library history).store.documents,
    ComesFrom library history document.sourceRef
      ((databaseAfter library history).store.contentsOf document.id)

variable {library : PdfLibrary} {database : Database} {key : String}
  {contents : List (ChunkValues × Embedding)} {store : Store}

/-- A run only handles its own files. -/
theorem target_of_handled {run : PdfRun} {entry : HandledFile}
    (member : entry ∈ (run.perform library store).handled) : entry.attempt ∈ run.targets := by
  -- A directory that does not exist handles no file.
  cases run with
  | ingest attempt =>
    obtain rfl := List.mem_singleton.mp member
    exact List.mem_singleton_self attempt
  | ingestDir directory =>
    rw [PdfRun.perform, runIngestDir] at member
    split at member
    · cases member
    · have files := (ingestFiles_spec library directory.pdfs store 0).1
      exact (congrArg (entry.attempt ∈ ·) files).mp (List.mem_map_of_mem member)

/-- A run on PDFs brings in complete documents and keeps the contents of all others. -/
theorem holds_perform {registry : Registry} {run : PdfRun}
    {genuine : ∀ attempt ∈ run.targets, attempt.Genuine}
    (held : Database.Holds ⟨(run.perform library store).store, registry⟩ key contents) :
    (Command.ingestPdf run genuine).Ingests library ⟨store, registry⟩ key contents ∨
      Database.Holds ⟨store, registry⟩ key contents := by
  obtain ⟨document, member, owns, holds⟩ := held
  rcases (trace_perform library store run).origin member with
    ⟨older, chunks⟩ | ⟨entry, inside, -, -, added, chunks⟩
  · -- The document was there before, with the same chunks.
    refine .inr ⟨document, older, owns, ?_⟩
    rw [← holds]
    dsimp only
    rw [Store.contentsOf, Store.contentsOf, chunks]
  · -- The document was added by one of the files.
    refine .inl ⟨entry.attempt, target_of_handled inside, ?_⟩
    have same : (run.perform library store).store.contentsOf document.id =
        entry.after.contentsOf document.id := by
      rw [Store.contentsOf, chunks]
      rfl
    rw [← holds, ← owns]
    dsimp only
    rw [same]
    exact added.complete

/-- A run on publications brings in those it commits and keeps the contents of all others. -/
theorem holds_runIngestHtml {pipelines : Pipelines}
    {faults : RegisteredPublication → IngestFaults} {pubIds : List String}
    (held : (runIngestHtml pipelines faults pubIds database).database.Holds key contents) :
    (Command.ingestHtml pipelines faults pubIds).Ingests library database key contents ∨
      database.Holds key contents := by
  unfold runIngestHtml at held
  rcases selectTargets_cases database.registry pubIds with
    ⟨-, missing, refused⟩ | ⟨-, targets, accepted, distinct, -⟩
  · rw [refused] at held
    exact .inr held
  rw [accepted] at held
  obtain ⟨document, member, owns, holds⟩ := held
  have found := Store.found_iff.mpr ⟨member, owns⟩
  by_cases committed : ∃ entry ∈ (ingestTargets pipelines faults targets database 0).handled,
      entry.2.Committed ∧ entry.1.pubId = key
  · -- The contents are those of the publication that was committed under the key.
    obtain ⟨⟨pub, handling⟩, inside, ⟨indexedAs, rfl⟩, same⟩ := committed
    have indexed := indexed_ingestTargets pipelines faults targets database 0 distinct inside
    obtain ⟨parsed, embeddings, succeeded, contents⟩ := indexed.contents
    obtain rfl : indexedAs = document :=
      Option.some.inj (indexed.found.symm.trans (same ▸ found))
    -- The run attempts its targets only.
    have targeted : pub ∈ targets :=
      (attempted_ingestTargets pipelines faults targets database 0).subset
        (List.mem_map_of_mem inside)
    exact .inl ⟨targets, accepted, pub, targeted, same, parsed, embeddings, succeeded,
      holds.symm.trans contents⟩
  · -- Nothing was committed under the key, so the document was there.
    have untouched : Untouched database
        (ingestTargets pipelines faults targets database 0).database key :=
      untouched_ingestTargets pipelines faults targets database 0 fun entry inside done same =>
        committed ⟨entry, inside, done, same⟩
    have older := untouched.document.symm.trans found
    obtain ⟨there, -⟩ := Store.found_iff.mp older
    refine .inr ⟨document, there, owns, ?_⟩
    rw [← holds, Store.contentsOf, Store.contentsOf, untouched.chunks document older]

/-- A backfill changes no contents. -/
theorem holds_backfill {order : SetOrder} {collation : String → String → Bool} {apply : Bool}
    {after : Store} {summary : BackfillSummary} {registry : Registry}
    (done : TorqueFinder.backfill order collation apply store = .ok (after, summary))
    (held : Database.Holds ⟨after, registry⟩ key contents) :
    Database.Holds ⟨store, registry⟩ key contents := by
  -- The backfill writes neither references nor chunks.
  cases apply with
  | false => rwa [store_of_audit done] at held
  | true =>
    obtain ⟨chunks, documents⟩ := documents_backfill done
    obtain ⟨document, member, owns, holds⟩ := held
    dsimp only at member holds
    rw [documents] at member
    obtain ⟨old, older, rfl⟩ := List.mem_map.mp member
    refine ⟨old, older, owns, ?_⟩
    rw [← holds]
    dsimp only
    rw [Store.contentsOf, Store.contentsOf, Store.ownedChunks, Store.ownedChunks, chunks]
    rfl

/-- What a command leaves it brought in itself, or found. -/
theorem Command.holds_perform (command : Command)
    (held : (command.perform library database).Holds key contents) :
    command.Ingests library database key contents ∨ database.Holds key contents := by
  cases command with
  | ingestPdf run genuine => exact TorqueFinder.holds_perform held
  | ingestHtml pipelines faults pubIds => exact holds_runIngestHtml held
  | discover crawler crawl => exact .inr held
  | backfill order collation apply =>
    refine .inr ?_
    -- A backfill that is refused leaves the database.
    unfold Command.perform at held
    dsimp only at held
    split at held
    · rename_i after summary done
      exact holds_backfill done held
    · exact held

/-- Contents that a command found come from where they came from before it. -/
theorem ComesFrom.concat {history : List Command} {command : Command}
    (comes : ComesFrom library history key contents)
    (held : (databaseAfter library (history ++ [command])).Holds key contents) :
    ComesFrom library (history ++ [command]) key contents := by
  obtain ⟨earlier, source, later, rfl, ingests, kept⟩ := comes
  refine ⟨earlier, source, later ++ [command], by simp, ingests, fun middle part => ?_⟩
  -- A part of the longer history is a part of the shorter one, or the whole.
  rcases List.prefix_concat_iff.mp part with rfl | shorter
  · simpa using held
  · exact kept middle shorter

/-- All contents a history leaves come from one of its commands, and have not changed since. -/
theorem comesFrom_of_holds (library : PdfLibrary) (history : List Command)
    (held : (databaseAfter library history).Holds key contents) :
    ComesFrom library history key contents := by
  revert held
  induction history using List.reverseRecOn with
  | nil =>
    intro held
    obtain ⟨document, member, -⟩ := held
    cases member
  | append_singleton history command ih =>
    intro held
    have performed : databaseAfter library (history ++ [command]) =
        command.perform library (databaseAfter library history) := after_concat
    -- The last command has made the contents, or they were there before it.
    rcases command.holds_perform (performed ▸ held) with ingests | older
    · refine ⟨history, command, [], rfl, ingests, fun middle part => ?_⟩
      rw [List.prefix_nil.mp part]
      exact held
    · exact (ih older).concat held

/-- After any history every stored text and vector goes back to one complete ingestion. -/
theorem databaseAfter_traceable (library : PdfLibrary) (history : List Command) :
    Traceable library history := by
  -- A document holds its own contents.
  intro document member
  exact comesFrom_of_holds library history ⟨document, member, rfl, rfl⟩

end TorqueFinder
