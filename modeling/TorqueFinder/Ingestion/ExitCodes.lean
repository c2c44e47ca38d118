import TorqueFinder.Ingestion.CommandHistory

/-! What the return code of the command on publications says about the database it leaves. -/

namespace TorqueFinder

/-- The publications a command line asks for, which are all that are due when it names none. -/
def Wanted (pubIds : List String) (pub : RegisteredPublication) : Prop :=
  if pubIds = [] then pub.status = .discovered ∨ pub.status = .stale else pub.pubId ∈ pubIds

/-- A publication is indexed as the page said that the run fetched for it. -/
structure PublicationIndexed (pipeline : HtmlIngestionPipeline) (faults : IngestFaults)
    (final : Database) (pub : RegisteredPublication) (document : IndexedDocument) : Prop where
  found : final.store.getDocumentBySourceRef pub.pubId = some document
  contents : ∃ parsed embeddings, StepsSucceed pipeline faults pub parsed embeddings ∧
    final.store.contentsOf document.id = parsed.contents embeddings
  ingested : ∃ row, final.registry.get pub.pubId = some row ∧ row.status = .ingested

/-- What belongs to a key is as it was. -/
structure Untouched (before after : Database) (key : String) : Prop where
  document : after.store.getDocumentBySourceRef key = before.store.getDocumentBySourceRef key
  chunks : ∀ document, before.store.getDocumentBySourceRef key = some document →
    after.store.ownedChunks document.id = before.store.ownedChunks document.id
  row : after.registry.get key = before.registry.get key

/-- The command committed the publication. -/
def Handling.Committed (handling : Handling) : Prop :=
  ∃ document, handling = .committed document

/-- No exception is met around the publications. -/
def CommandFaults.Quiet (around : CommandFaults) : Prop :=
  around.listing = none ∧ around.closing = none

/-- What a run did, and what its end says about it. -/
structure Reported (around : CommandFaults) (pipelines : Pipelines)
    (faults : RegisteredPublication → IngestFaults) (pubIds : List String) (before : Database)
    (run : BatchRun) : Prop where
  wanted : ∀ entry ∈ run.handled, entry.1 ∈ before.registry.listAll ∧ Wanted pubIds entry.1
  indexed : ∀ pub document, (pub, .committed document) ∈ run.handled →
    PublicationIndexed (pipelines pub) (faults pub) run.database pub document
  untouched : ∀ key, (∀ entry ∈ run.handled, entry.2.Committed → entry.1.pubId ≠ key) →
    Untouched before run.database key
  /-- The code is zero exactly when everything that was asked for is indexed. -/
  zero : run.ended = .ok 0 ↔ around.Quiet ∧
    (∀ pubId ∈ pubIds, before.registry.get pubId ≠ none) ∧
      ∀ pub ∈ before.registry.listAll, Wanted pubIds pub →
        ∃ document, (pub, .committed document) ∈ run.handled
  one : run.ended = .ok 1 ↔ around.Quiet ∧
    (∃ pub error, (pub, .rolledBack error) ∈ run.handled) ∧
      ∀ pub failure, (pub, .raised failure) ∉ run.handled
  two : run.ended = .ok 2 ↔ around.Quiet ∧ ∃ pubId ∈ pubIds, before.registry.get pubId = none
  /-- The last exception is the one the run ends with. -/
  raised : ∀ failure, run.ended = .error failure ↔ around.closing = some failure ∨
    around.closing = none ∧ (around.listing = some failure ∨
      around.listing = none ∧ ∃ pub, (pub, .raised failure) ∈ run.handled)
  /-- A run that cannot list the registry attempts nothing. -/
  unlisted : around.listing ≠ none → run.handled = []
  codes : ∀ code, run.ended = .ok code → code ≤ 2
  /-- Only an exception and an unknown id keep the command from a publication. -/
  attempted : ∀ code < 2, run.ended = .ok code →
    ∀ pub ∈ before.registry.listAll, Wanted pubIds pub → ∃ handling, (pub, handling) ∈ run.handled

variable {pipelines : Pipelines} {faults : RegisteredPublication → IngestFaults}
  {pipeline : HtmlIngestionPipeline} {target : IngestFaults} {pub : RegisteredPublication}
  {before middle after database : Database} {document : IndexedDocument} {key : String}
  {handling : Handling} {pubIds : List String}

/-- A publication that was rolled back was not committed. -/
theorem Handling.not_committed_rolledBack {error : IngestionError} :
    ¬ (Handling.rolledBack error).Committed := by
  -- A publication is handled in one way only.
  intro committed
  obtain ⟨document, same⟩ := committed
  cases same

/-- A publication that an exception left was not committed. -/
theorem Handling.not_committed_raised {failure : IngestionFailure} :
    ¬ (Handling.raised failure).Committed := by
  intro committed
  obtain ⟨document, same⟩ := committed
  cases same

/-- A database leaves everything in it untouched. -/
theorem Untouched.refl (database : Database) (key : String) : Untouched database database key :=
  ⟨rfl, fun _ _ => rfl, rfl⟩

/-- What two changes leave untouched both leave untouched together. -/
theorem Untouched.trans (first : Untouched before middle key)
    (second : Untouched middle after key) : Untouched before after key where
  -- The document is the same in the middle, so the chunks can be compared there.
  document := second.document.trans first.document
  chunks document found :=
    (second.chunks document (first.document.trans found)).trans (first.chunks document found)
  row := second.row.trans first.row

/-- An indexed publication that is left untouched stays indexed. -/
theorem PublicationIndexed.untouched
    (indexed : PublicationIndexed pipeline target before pub document)
    (untouched : Untouched before after pub.pubId) :
    PublicationIndexed pipeline target after pub document where
  -- The document, its chunks and its row are all as they were.
  found := untouched.document.trans indexed.found
  contents := by
    obtain ⟨parsed, embeddings, succeeded, contents⟩ := indexed.contents
    refine ⟨parsed, embeddings, succeeded, ?_⟩
    rw [Store.contentsOf, untouched.chunks document indexed.found]
    exact contents
  ingested := by
    rw [untouched.row]
    exact indexed.ingested

/-- The ingestion of a page touches nothing that belongs to another key. -/
theorem untouched_ingestFetched {html : String} (different : key ≠ pub.pubId)
    (done : ingestFetched pipeline pub html before = .ok (after, document)) :
    Untouched before after key := by
  obtain ⟨_, _, _, _, _, stored, flipped⟩ := ingestFetched_eq_ok done
  obtain ⟨found, -, otherDocuments, otherChunks⟩ := storeParsed_spec stored
  obtain ⟨member, owns⟩ := Store.found_iff.mp found
  refine ⟨otherDocuments key different, fun other there => ?_, ?_⟩
  · -- The document of the other key is another one, so its chunks were not replaced.
    refine otherChunks other.id fun same => different ?_
    have stays : after.store.getDocumentBySourceRef key = some other :=
      (otherDocuments key different).trans there
    have one := Table.eq_of_key after.store.documentIds_nodup (Store.mem_of_found stays) member same
    rw [← Store.sourceRef_of_found there, one, owns]
  · unfold Registry.setStatus at flipped
    split at flipped
    · cases flipped
    · rw [← Except.ok.inj flipped]
      exact Registry.getRow_updateRow_ne _ different.symm

/-- Handling a publication touches nothing that belongs to another key. -/
theorem untouched_runTarget (outcome : runTarget pipeline target pub before = (after, handling))
    (different : key ≠ pub.pubId) : Untouched before after key := by
  -- A publication writes under its own id only.
  obtain rfl : (runTarget pipeline target pub before).1 = after := congrArg Prod.fst outcome
  rcases runTarget_ingested pipeline target pub before with same | ⟨html, document, ingested⟩
  · rw [same]
    exact .refl before key
  · exact untouched_ingestFetched different ingested

/-- A publication that is not committed leaves the database. -/
theorem runTarget_uncommitted (outcome : runTarget pipeline target pub before = (after, handling))
    (never : ¬ handling.Committed) : after = before := by
  -- Without a commit the session is rolled back.
  rcases runTarget_cases pipeline target pub before with ⟨same, -⟩ | ⟨document, committed, -⟩
  · rwa [outcome] at same
  · rw [outcome] at committed
    exact absurd ⟨document, committed⟩ never

/-- A publication that is committed is indexed. -/
theorem indexed_of_runTarget
    (outcome : runTarget pipeline target pub before = (after, .committed document)) :
    PublicationIndexed pipeline target after pub document := by
  have cases := runTarget_cases pipeline target pub before
  rw [outcome] at cases
  rcases cases with ⟨-, never⟩ | ⟨other, same, replaced⟩
  · exact absurd rfl (never document)
  · -- A commit leaves one document, which is the new one.
    obtain rfl : document = other := Handling.committed.inj same
    have once : document ∈ after.store.documents.filter fun row => row.sourceRef = pub.pubId := by
      rw [replaced.documents_once]
      exact List.mem_singleton_self document
    obtain ⟨member, key⟩ := List.mem_filter.mp once
    exact ⟨Store.found_iff.mpr ⟨member, of_decide_eq_true key⟩, replaced.contents,
      replaced.ingested⟩

/-- The loop attempts the targets in their order. -/
theorem attempted_ingestTargets (pipelines : Pipelines)
    (faults : RegisteredPublication → IngestFaults) (targets : List RegisteredPublication)
    (database : Database) (code : Nat) :
    (ingestTargets pipelines faults targets database code).handled.map Prod.fst <+: targets := by
  -- An exception in the middle leaves the rest of the targets out.
  fun_induction ingestTargets pipelines faults targets database code with
  | case1 database code => exact List.prefix_refl []
  | case2 pub rest database code next document outcome run ih =>
    exact List.prefix_cons_inj pub |>.mpr ih
  | case3 pub rest database code next error outcome run ih =>
    exact List.prefix_cons_inj pub |>.mpr ih
  | case4 pub rest database code next failure outcome =>
    exact List.prefix_cons_inj pub |>.mpr List.nil_prefix

/-- The loop ends with an exception exactly when one left a target. -/
theorem raised_ingestTargets (pipelines : Pipelines)
    (faults : RegisteredPublication → IngestFaults) (targets : List RegisteredPublication)
    (database : Database) (code : Nat) (failure : IngestionFailure) :
    (ingestTargets pipelines faults targets database code).ended = .error failure ↔
      ∃ pub, (pub, .raised failure) ∈
        (ingestTargets pipelines faults targets database code).handled := by
  -- The run ends with an exception of the publication it has reached.
  fun_induction ingestTargets pipelines faults targets database code with
  | case1 database code => simp
  | case2 pub rest database code next document outcome run ih => simpa using ih
  | case3 pub rest database code next error outcome run ih => simpa using ih
  | case4 pub rest database code next raised outcome => simp [eq_comm]

/-- A loop that returns attempted every target, and its code tells whether one was rolled back. -/
theorem code_ingestTargets (pipelines : Pipelines)
    (faults : RegisteredPublication → IngestFaults) (targets : List RegisteredPublication)
    (database : Database) (code returned : Nat)
    (ended : (ingestTargets pipelines faults targets database code).ended = .ok returned) :
    (ingestTargets pipelines faults targets database code).handled.map Prod.fst = targets ∧
      ((∃ pub error, (pub, .rolledBack error) ∈
          (ingestTargets pipelines faults targets database code).handled) ∧ returned = 1 ∨
        (∀ entry ∈ (ingestTargets pipelines faults targets database code).handled,
          entry.2.Committed) ∧ returned = code) := by
  fun_induction ingestTargets pipelines faults targets database code with
  | case1 database code =>
    exact ⟨rfl, .inr ⟨List.forall_mem_nil _, (Except.ok.inj ended).symm⟩⟩
  | case2 pub rest database code next document outcome run ih =>
    obtain ⟨attempted, ⟨⟨other, error, member⟩, one⟩ | ⟨committed, same⟩⟩ := ih ended
    · exact ⟨congrArg (pub :: ·) attempted, .inl ⟨⟨other, error, .tail _ member⟩, one⟩⟩
    · exact ⟨congrArg (pub :: ·) attempted,
        .inr ⟨List.forall_mem_cons.mpr ⟨⟨document, rfl⟩, committed⟩, same⟩⟩
  | case3 pub rest database code next error outcome run ih =>
    -- A failed target makes the code one, and it is one again for every later failure.
    obtain ⟨attempted, ⟨-, one⟩ | ⟨-, one⟩⟩ := ih ended
    · exact ⟨congrArg (pub :: ·) attempted, .inl ⟨⟨pub, error, .head _⟩, one⟩⟩
    · exact ⟨congrArg (pub :: ·) attempted, .inl ⟨⟨pub, error, .head _⟩, one⟩⟩
  | case4 pub rest database code next failure outcome => cases ended

/-- What the loop commits nothing for it leaves untouched. -/
theorem untouched_ingestTargets (pipelines : Pipelines)
    (faults : RegisteredPublication → IngestFaults) (targets : List RegisteredPublication)
    (database : Database) (code : Nat)
    (never : ∀ entry ∈ (ingestTargets pipelines faults targets database code).handled,
      entry.2.Committed → entry.1.pubId ≠ key) :
    Untouched database (ingestTargets pipelines faults targets database code).database key := by
  fun_induction ingestTargets pipelines faults targets database code with
  | case1 database code => exact .refl database key
  -- A committed publication writes its own document, which is another one.
  | case2 pub rest database code next document outcome run ih =>
    obtain ⟨first, later⟩ := List.forall_mem_cons.mp never
    exact (untouched_runTarget outcome (first ⟨document, rfl⟩).symm).trans (ih later)
  -- A rolled back one leaves everything as it was.
  | case3 pub rest database code next error outcome run ih =>
    obtain ⟨-, later⟩ := List.forall_mem_cons.mp never
    have same : next = database := runTarget_uncommitted outcome Handling.not_committed_rolledBack
    exact same ▸ ih later
  | case4 pub rest database code next failure outcome =>
    have same : next = database := runTarget_uncommitted outcome Handling.not_committed_raised
    rw [same]
    exact .refl database key

/-- What the loop committed is indexed when it ends, since no later target touches it. -/
theorem indexed_ingestTargets (pipelines : Pipelines)
    (faults : RegisteredPublication → IngestFaults) (targets : List RegisteredPublication)
    (database : Database) (code : Nat) (distinct : (targets.map RegisteredPublication.pubId).Nodup)
    (member : (pub, .committed document) ∈
      (ingestTargets pipelines faults targets database code).handled) :
    PublicationIndexed (pipelines pub) (faults pub)
      (ingestTargets pipelines faults targets database code).database pub document := by
  fun_induction ingestTargets pipelines faults targets database code with
  | case1 database code => cases member
  | case2 first rest database code next made outcome run ih =>
    obtain ⟨fresh, others⟩ := List.nodup_cons.mp distinct
    rcases List.mem_cons.mp member with same | later
    · cases same
      -- The ids of the targets are distinct, so the others leave the first one alone.
      have alone : Untouched next run.database pub.pubId := by
        refine untouched_ingestTargets pipelines faults rest next code
          fun entry inside _ same => fresh ?_
        have attempted := (attempted_ingestTargets pipelines faults rest next code).subset
          (List.mem_map_of_mem inside)
        exact same ▸ List.mem_map_of_mem attempted
      exact (indexed_of_runTarget outcome).untouched alone
    · exact ih others later
  | case3 first rest database code next error outcome run ih =>
    obtain ⟨-, others⟩ := List.nodup_cons.mp distinct
    rcases List.mem_cons.mp member with same | later
    · cases same
    · exact ih others later
  | case4 first rest database code next failure outcome =>
    have same := List.mem_singleton.mp member
    cases same

/-- An id on the command line is that of a target when the registry knows it. -/
theorem mem_targets_iff {registry : Registry} {pubIds : List String} {pubId : String}
    (named : pubId ∈ pubIds) :
    pubId ∈ (registry.listAll.filter fun pub => pub.pubId ∈ pubIds).map
      RegisteredPublication.pubId ↔ registry.get pubId ≠ none := by
  -- The targets are the registered publications among those that were named.
  rw [Registry.get, Registry.getRow, Ne, List.find?_eq_none, List.mem_map]
  constructor
  · intro target
    obtain ⟨pub, member, same⟩ := target
    exact fun unknown => unknown pub (List.mem_of_mem_filter member) (decide_eq_true same)
  · intro known
    push Not at known
    obtain ⟨pub, member, same⟩ := known
    obtain rfl : pub.pubId = pubId := of_decide_eq_true same
    exact ⟨pub, List.mem_filter.mpr ⟨member, decide_eq_true named⟩, rfl⟩

/-- The targets are the publications the command line asks for, unless it names an unknown one. -/
theorem selectTargets_cases (registry : Registry) (pubIds : List String) :
    ((∃ pubId ∈ pubIds, registry.get pubId = none) ∧
      ∃ unknown, selectTargets registry pubIds = .error unknown) ∨
    (∀ pubId ∈ pubIds, registry.get pubId ≠ none) ∧
      ∃ targets, selectTargets registry pubIds = .ok targets ∧
        (targets.map RegisteredPublication.pubId).Nodup ∧
          ∀ pub, pub ∈ targets ↔ pub ∈ registry.listAll ∧ Wanted pubIds pub := by
  unfold selectTargets
  -- A publication is registered once, so it is a target once.
  have distinct : ∀ keep : RegisteredPublication → Bool,
      ((registry.listAll.filter keep).map RegisteredPublication.pubId).Nodup :=
    Table.nodup_filter registry.pubIds_nodup
  split
  · rename_i all
    subst all
    refine .inr ⟨List.forall_mem_nil _, _, rfl, distinct _, fun pub => ?_⟩
    simp [Wanted]
  · rename_i named
    dsimp only
    split
    · -- No named publication is missing.
      rename_i complete
      rw [List.filter_eq_nil_iff] at complete
      refine .inr ⟨fun pubId asked => ?_, _, rfl, distinct _, fun pub => ?_⟩
      · refine (mem_targets_iff asked).mp ?_
        by_contra missing
        exact complete pubId asked (decide_eq_true missing)
      · simp [Wanted, named]
    · -- The first missing one is unknown to the registry.
      rename_i incomplete
      obtain ⟨pubId, missing⟩ := List.exists_mem_of_ne_nil _ incomplete
      obtain ⟨asked, unknown⟩ := List.mem_filter.mp missing
      refine .inl ⟨⟨pubId, asked, ?_⟩, _, rfl⟩
      by_contra known
      exact of_decide_eq_true unknown ((mem_targets_iff asked).mpr known)

/-- A loop that returns has done something about every target. -/
theorem reached_ingestTargets {targets : List RegisteredPublication} {returned : Nat}
    (ended : (ingestTargets pipelines faults targets database 0).ended = .ok returned)
    (target : pub ∈ targets) :
    ∃ handling, (pub, handling) ∈ (ingestTargets pipelines faults targets database 0).handled := by
  -- Nothing has cut the loop short.
  rw [← (code_ingestTargets pipelines faults targets database 0 returned ended).1] at target
  obtain ⟨entry, member, rfl⟩ := List.mem_map.mp target
  exact ⟨entry.2, member⟩

/-- The loop returns zero exactly when it committed every target. -/
theorem zero_ingestTargets {targets : List RegisteredPublication} (distinct : targets.Nodup) :
    (ingestTargets pipelines faults targets database 0).ended = .ok 0 ↔
      ∀ pub ∈ targets, ∃ document, (pub, .committed document) ∈
        (ingestTargets pipelines faults targets database 0).handled := by
  have attempted := attempted_ingestTargets pipelines faults targets database 0
  have returned := code_ingestTargets pipelines faults targets database 0
  constructor
  · -- With code zero, nothing that was handled failed.
    intro ended pub target
    obtain ⟨handling, member⟩ := reached_ingestTargets ended target
    obtain ⟨-, ⟨-, one⟩ | ⟨committed, -⟩⟩ := returned 0 ended
    · cases one
    · obtain ⟨document, same⟩ := committed _ member
      exact ⟨document, same ▸ member⟩
  · intro complete
    -- A target is handled once, so none is both committed and something else.
    have committed : ∀ entry ∈ (ingestTargets pipelines faults targets database 0).handled,
        entry.2.Committed := by
      intro entry member
      obtain ⟨document, committed⟩ :=
        complete entry.1 (attempted.subset (List.mem_map_of_mem member))
      have same := Table.eq_of_key (attempted.sublist.nodup distinct) member committed rfl
      exact ⟨document, congrArg Prod.snd same⟩
    -- An exception or another code would belong to a target that failed.
    cases ended : (ingestTargets pipelines faults targets database 0).ended with
    | error failure =>
      obtain ⟨pub, member⟩ :=
        (raised_ingestTargets pipelines faults targets database 0 failure).mp ended
      exact absurd (committed _ member) Handling.not_committed_raised
    | ok code =>
      obtain ⟨-, ⟨⟨pub, error, member⟩, -⟩ | ⟨-, zero⟩⟩ := returned code ended
      · exact absurd (committed _ member) Handling.not_committed_rolledBack
      · rw [zero]

/-- A run over the wanted publications reports what it did with them. -/
theorem reported_of_targets {targets : List RegisteredPublication}
    (pipelines : Pipelines) (faults : RegisteredPublication → IngestFaults)
    (known : ∀ pubId ∈ pubIds, database.registry.get pubId ≠ none)
    (distinct : (targets.map RegisteredPublication.pubId).Nodup)
    (selected : ∀ pub, pub ∈ targets ↔ pub ∈ database.registry.listAll ∧ Wanted pubIds pub) :
    Reported {} pipelines faults pubIds database
      (ingestTargets pipelines faults targets database 0) where
  wanted entry member := (selected entry.1).mp <|
    (attempted_ingestTargets pipelines faults targets database 0).subset
      (List.mem_map_of_mem member)
  indexed pub document member :=
    indexed_ingestTargets pipelines faults targets database 0 distinct member
  untouched key never := untouched_ingestTargets pipelines faults targets database 0 never
  zero := by
    -- The targets are what was asked for, and all ids are known.
    rw [zero_ingestTargets distinct.of_map]
    constructor
    · intro complete
      refine ⟨⟨rfl, rfl⟩, known, fun pub listed asked => ?_⟩
      exact complete pub ((selected pub).mpr ⟨listed, asked⟩)
    · intro complete pub target
      obtain ⟨listed, asked⟩ := (selected pub).mp target
      exact complete.2.2 pub listed asked
  one := by
    -- The code stays one behind a rollback, and there is none behind an exception.
    have raised := raised_ingestTargets pipelines faults targets database 0
    have returned := code_ingestTargets pipelines faults targets database 0
    constructor
    · intro ended
      refine ⟨⟨rfl, rfl⟩, ?_, fun pub failure member => ?_⟩
      · obtain ⟨-, ⟨rolledBack, -⟩ | ⟨-, zero⟩⟩ := returned 1 ended
        · exact rolledBack
        · cases zero
      · cases ended.symm.trans ((raised failure).mpr ⟨pub, member⟩)
    · intro failed
      obtain ⟨-, ⟨pub, error, member⟩, never⟩ := failed
      cases ended : (ingestTargets pipelines faults targets database 0).ended with
      | error failure =>
        obtain ⟨other, left⟩ := (raised failure).mp ended
        exact absurd left (never other failure)
      | ok code =>
        obtain ⟨-, ⟨-, one⟩ | ⟨committed, -⟩⟩ := returned code ended
        · rw [one]
        · exact absurd (committed _ member) Handling.not_committed_rolledBack
  two := by
    -- Two is the code of a command line that names an unknown id, and this one does not.
    constructor
    · intro ended
      obtain ⟨-, ⟨-, one⟩ | ⟨-, zero⟩⟩ :=
        code_ingestTargets pipelines faults targets database 0 2 ended
      · cases one
      · cases zero
    · intro unknown
      obtain ⟨-, pubId, named, missing⟩ := unknown
      exact absurd missing (known pubId named)
  raised failure := by
    rw [raised_ingestTargets pipelines faults targets database 0 failure]
    simp
  unlisted failed := absurd rfl failed
  codes := by
    intro code ended
    obtain ⟨-, ⟨-, one⟩ | ⟨-, zero⟩⟩ :=
      code_ingestTargets pipelines faults targets database 0 code ended
    · omega
    · omega
  attempted _ _ ended pub listed asked :=
    reached_ingestTargets ended ((selected pub).mpr ⟨listed, asked⟩)

/-- A run without exceptions around its publications reports what it did with them. -/
theorem reported_runIngestHtml (pipelines : Pipelines)
    (faults : RegisteredPublication → IngestFaults) (pubIds : List String) (database : Database) :
    Reported {} pipelines faults pubIds database
      (runIngestHtml pipelines faults pubIds database) := by
  unfold runIngestHtml
  rcases selectTargets_cases database.registry pubIds with
    ⟨⟨pubId, named, unknown⟩, missing, refused⟩ | ⟨known, targets, accepted, distinct, selected⟩
  · rw [refused]
    -- Nothing was attempted, and the code is two.
    exact
      { wanted := List.forall_mem_nil _
        indexed := fun pub document member => absurd member List.not_mem_nil
        untouched := fun key _ => .refl database key
        zero := ⟨fun ended => absurd ended (by simp),
          fun all => absurd unknown (all.2.1 pubId named)⟩
        one := by simp
        two := ⟨fun _ => ⟨⟨rfl, rfl⟩, pubId, named, unknown⟩, fun _ => rfl⟩
        raised := by simp
        unlisted := fun _ => rfl
        codes := by simp
        attempted := fun code small ended =>
          absurd small (Except.ok.inj ended ▸ Nat.lt_irrefl 2) }
  · rw [accepted]
    exact reported_of_targets pipelines faults known distinct selected

/-- A run that ends with an exception around its publications reports that exception. -/
theorem reported_of_exception {around : CommandFaults} {run : BatchRun} {last : IngestionFailure}
    (ended : run.ended = .error last) (loud : ¬ around.Quiet)
    (raised : ∀ failure, last = failure ↔ around.closing = some failure ∨
      around.closing = none ∧ (around.listing = some failure ∨
        around.listing = none ∧ ∃ pub, (pub, .raised failure) ∈ run.handled))
    (unlisted : around.listing ≠ none → run.handled = [])
    (wanted : ∀ entry ∈ run.handled, entry.1 ∈ before.registry.listAll ∧ Wanted pubIds entry.1)
    (indexed : ∀ pub document, (pub, .committed document) ∈ run.handled →
      PublicationIndexed (pipelines pub) (faults pub) run.database pub document)
    (untouched : ∀ key, (∀ entry ∈ run.handled, entry.2.Committed → entry.1.pubId ≠ key) →
      Untouched before run.database key) :
    Reported around pipelines faults pubIds before run := by
  -- An exception leaves no return code, so the parts about codes are empty.
  have never : ∀ code, run.ended ≠ .ok code := by
    intro code same
    cases ended.symm.trans same
  exact
    { wanted := wanted
      indexed := indexed
      untouched := untouched
      zero := iff_of_false (never 0) fun all => loud all.1
      one := iff_of_false (never 1) fun all => loud all.1
      two := iff_of_false (never 2) fun all => loud all.1
      raised := fun failure => by
        rw [ended, Except.error.injEq]
        exact raised failure
      unlisted := unlisted
      codes := fun code returned => absurd returned (never code)
      attempted := fun code _ returned => absurd returned (never code) }

/-- The return code of a run says what it did, and a committed publication is indexed. -/
theorem runIngestHtml_reported (around : CommandFaults) (pipelines : Pipelines)
    (faults : RegisteredPublication → IngestFaults) (pubIds : List String) (database : Database) :
    Reported around pipelines faults pubIds database
      (runIngestHtmlCommand around pipelines faults pubIds database) := by
  obtain ⟨listing, closing⟩ := around
  have inner := reported_runIngestHtml pipelines faults pubIds database
  -- An exception around the publications changes how the run ends, and nothing it committed.
  have loud : ∀ {around : CommandFaults} {failure : IngestionFailure},
      around.listing = some failure ∨ around.closing = some failure → ¬ around.Quiet := by
    intro around failure met quiet
    rcases met with listing | closing
    · cases quiet.1.symm.trans listing
    · cases quiet.2.symm.trans closing
  cases closing with
  | none =>
    cases listing with
    | none => exact inner
    | some failure =>
      exact reported_of_exception rfl (loud (.inl rfl)) (by simp) (fun _ => rfl)
        (List.forall_mem_nil _) (fun _ _ member => absurd member List.not_mem_nil)
        fun key _ => .refl database key
  | some last =>
    cases listing with
    | none =>
      exact reported_of_exception rfl (loud (.inr rfl)) (by simp)
        (fun failed => absurd rfl failed) inner.wanted inner.indexed inner.untouched
    | some failure =>
      exact reported_of_exception rfl (loud (.inr rfl)) (by simp) (fun _ => rfl)
        (List.forall_mem_nil _) (fun _ _ member => absurd member List.not_mem_nil)
        fun key _ => .refl database key

end TorqueFinder
