import TorqueFinder.Ingestion.HtmlPipeline
import TorqueFinder.Lib.Transition

/-! One publication whose page changes while a crawler records it and an ingester indexes it. -/

namespace TorqueFinder

open PyJson ExceptFlow Transition

/-- How far the ingester is with the publication. -/
inductive Ingester where
  | idle
  /-- The recorded publication was read. -/
  | targeted (pub : RegisteredPublication)
  /-- Its page was fetched. -/
  | fetched (pub : RegisteredPublication) (html : String)

/-- The publication the ingester works on. -/
def Ingester.target : Ingester → Option RegisteredPublication
  -- The publication is chosen when the command lists its targets.
  | .idle => none
  | .targeted pub => some pub
  | .fetched pub _ => some pub

/-- The live page, the database, and what the two processes carry. -/
structure CrawlState where
  page : String
  database : Database
  /-- The page the crawler fetched and has not recorded yet. -/
  crawled : Option String
  ingester : Ingester

/-- What can happen next. -/
inductive CrawlEvent where
  /-- The live page changes. -/
  | pageChanges (html : String)
  /-- The crawler fetches the page. -/
  | crawlFetch
  /-- The crawler commits the upsert of what it fetched. -/
  | crawlCommit (referencedByModels : List String) (now : Nat)
  /-- The crawler ends without a commit. -/
  | crawlAbort
  /-- The ingester reads the recorded publication. -/
  | ingestRead
  /-- The ingester fetches the page. -/
  | ingestFetch
  /-- The ingester commits the chunks and the status, or rolls back. -/
  | ingestCommit
  /-- The ingester ends without a commit. -/
  | ingestAbort
  deriving DecidableEq

/-- The publication and the collaborators of both processes. -/
structure Site where
  ref : PublicationRef
  pipeline : HtmlIngestionPipeline

namespace Site

/-- The registry after the crawler records a page, or as it was when the page cannot be read. -/
def record (site : Site) (html : String) (referencedByModels : List String) (now : Nat)
    (registry : Registry) : Registry :=
  match buildPublication site.pipeline.library html site.ref with
  -- The crawler commits what it fetched, which need not be the page any more.
  | .ok pub => (registry.upsert pub referencedByModels now).1
  | .error _ => registry

/-- The database after the ingester commits a page, or as it was when the ingestion fails. -/
def commit (site : Site) (pub : RegisteredPublication) (html : String) (database : Database) :
    Database :=
  match ingestFetched site.pipeline pub html database with
  | .ok (database, _) => database
  -- A failed ingestion is rolled back as a whole.
  | .error _ => database

/-- The state after an event, when the event is possible. -/
def step (site : Site) (state : CrawlState) : CrawlEvent → Option CrawlState
  | .pageChanges html => some { state with page := html }
  | .crawlFetch => some { state with crawled := some state.page }
  | .crawlCommit referencedByModels now =>
    state.crawled.map fun html =>
      { state with
        database := { state.database with
          registry := site.record html referencedByModels now state.database.registry }
        crawled := none }
  | .crawlAbort => some { state with crawled := none }
  | .ingestRead =>
    -- Naming the publication on the command line targets it whatever its status.
    (state.database.registry.get site.ref.pubId).map fun pub =>
      { state with ingester := .targeted pub }
  | .ingestFetch =>
    match state.ingester with
    -- The ingester bypasses the cache, so it fetches the live page.
    | .targeted pub => some { state with ingester := .fetched pub state.page }
    | _ => none
  | .ingestCommit =>
    match state.ingester with
    | .fetched pub html =>
      some { state with database := site.commit pub html state.database, ingester := .idle }
    | _ => none
  | .ingestAbort => some { state with ingester := .idle }

/-- Without interruption, fetching and committing leave what one call of the pipeline leaves. -/
theorem database_of_uninterrupted (site : Site) {state : CrawlState} {pub : RegisteredPublication}
    (targeted : state.ingester = .targeted pub)
    (live : site.pipeline.fetch pub.sourceUrl = some state.page) :
    (run site.step state [.ingestFetch, .ingestCommit]).map CrawlState.database =
      some (match ingestPublication site.pipeline pub state.database with
        | .ok (database, _) => database
        | .error _ => state.database) := by
  -- The pipeline fetches the page that is live, which is the page the first step fetches.
  have called : ingestPublication site.pipeline pub state.database =
      ingestFetched site.pipeline pub state.page state.database := by
    rw [ingestPublication, live]
  simp only [run, step, targeted, Option.bind_some, Option.map_some, commit, called]

/-- The hash of the data block of a page. -/
def contentHash (site : Site) (html : String) : Except DiscoveryError String :=
  (extractManualDataJson html).map site.pipeline.library.sha256Hex

/-- Some page with the recorded hash has the indexed chunks as its parse. -/
def ReflectsRow (site : Site) (store : Store) (row : RegisteredPublication) : Prop :=
  -- The hash is that of the data block, so the rest of the page may differ.
  ∃ html sourceUrl parsed, site.contentHash html = .ok row.contentHash ∧
    parsePublication site.pipeline.library html sourceUrl = .ok parsed ∧
      store.indexedChunks site.ref.pubId = parsed.chunks.map HtmlChunk.values

/-- A publication that counts as ingested is indexed as it was recorded. -/
def IndexedAsRecorded (site : Site) (state : CrawlState) : Prop :=
  -- What the registry calls ingested is the page that it has recorded.
  ∀ row, state.database.registry.get site.ref.pubId = some row → row.status = .ingested →
    site.ReflectsRow state.database.store row

/-- Both processes start on a publication nobody has recorded. -/
structure Starts (site : Site) (state : CrawlState) : Prop where
  unrecorded : state.database.registry.get site.ref.pubId = none
  crawler_idle : state.crawled = none
  ingester_idle : state.ingester = .idle

/-- An ingestion that succeeds commits the version of the page that is recorded at that time. -/
def CommitsRecorded (site : Site) (state : CrawlState) : CrawlEvent → Prop
  | .ingestCommit =>
    match state.ingester, state.database.registry.get site.ref.pubId with
    | .fetched pub html, some row =>
      -- A commit that rolls back changes nothing and is not restricted.
      (ingestFetched site.pipeline pub html state.database).toOption.isSome = true →
        site.contentHash html = .ok row.contentHash
    | _, _ => True
  | _ => True

/-- Whether a commit meets the condition can be checked. -/
instance (site : Site) (state : CrawlState) (event : CrawlEvent) :
    Decidable (site.CommitsRecorded state event) := by
  -- Hashes are compared only at a commit.
  unfold CommitsRecorded
  split
  · split <;> infer_instance
  · infer_instance

/-- What every event keeps: the property, and the ingester works on the publication. -/
structure Invariant (site : Site) (state : CrawlState) : Prop where
  indexed : site.IndexedAsRecorded state
  on_target : ∀ pub, state.ingester.target = some pub → pub.pubId = site.ref.pubId

variable {site : Site} {state next : CrawlState}

/-- The recorded publication has the id it is looked up by. -/
theorem pubId_of_get {registry : Registry} {pubId : String} {row : RegisteredPublication}
    (found : registry.get pubId = some row) : row.pubId = pubId := by
  simpa using List.find?_some found

/-- Discovered metadata carries the id of its link and the hash of its page. -/
theorem buildPublication_spec {html : String} {pub : DiscoveredPublication}
    (built : buildPublication site.pipeline.library html site.ref = .ok pub) :
    pub.pubId = site.ref.pubId ∧ site.contentHash html = .ok pub.contentHash := by
  -- The link and the raw data go into the metadata unchanged.
  obtain ⟨raw, data, extracted, rfl⟩ := buildPublication_eq_ok built
  exact ⟨rfl, by rw [contentHash, extracted]; rfl⟩

/-- Recording a page leaves a row that counts as ingested only with the hash it had. -/
theorem row_of_record {html : String} {referencedByModels : List String} {now : Nat}
    {registry : Registry} {row : RegisteredPublication}
    (found : (site.record html referencedByModels now registry).get site.ref.pubId = some row)
    (ingested : row.status = .ingested) :
    ∃ old, registry.get site.ref.pubId = some old ∧ old.status = .ingested ∧
      old.contentHash = row.contentHash := by
  -- A first sighting is not ingested, and a change would have made the row stale.
  unfold record at found
  split at found
  · rename_i pub built
    obtain ⟨sameId, _⟩ := buildPublication_spec built
    rw [Registry.get, ← sameId, Registry.getRow_upsert] at found
    cases recorded : registry.getRow pub.pubId with
    | none =>
      rw [recorded] at found
      cases found
      cases ingested
    | some old =>
      rw [recorded] at found
      cases found
      obtain ⟨before, same⟩ := Registry.seen_ingested ingested
      refine ⟨old, by rw [Registry.get, ← sameId, recorded], before, ?_⟩
      rw [same]
      exact (Registry.seen_contentHash _ _ _ _).symm
  · exact ⟨row, found, ingested, rfl⟩

/-- Recording a page keeps an index that agrees with the record. -/
theorem indexed_of_record {html : String} {referencedByModels : List String} {now : Nat}
    (indexed : site.IndexedAsRecorded state) (same : next.database.store = state.database.store)
    (recorded : next.database.registry =
      site.record html referencedByModels now state.database.registry) :
    site.IndexedAsRecorded next := by
  -- Recording leaves the store alone, and the hash of an ingested row too.
  intro row found ingested
  rw [recorded] at found
  obtain ⟨old, before, wasIngested, hash⟩ := row_of_record found ingested
  have reflects := indexed old before wasIngested
  rwa [ReflectsRow, hash, ← same] at reflects

/-- A commit of the recorded version indexes what is recorded. -/
theorem indexed_of_commit {pub : RegisteredPublication} {html : String}
    (indexed : site.IndexedAsRecorded state) (named : pub.pubId = site.ref.pubId)
    (fetched : state.ingester = .fetched pub html)
    (meets : site.CommitsRecorded state .ingestCommit)
    (committed : next.database = site.commit pub html state.database) :
    site.IndexedAsRecorded next := by
  -- The flip keeps the row's hash, which the condition says is that of the committed page.
  intro row found ingested
  unfold commit at committed
  split at committed
  · rename_i database document done
    obtain ⟨parsed, read, chunks, flipped⟩ := ingestFetched_spec done
    obtain ⟨old, before, after⟩ := Registry.getRow_setStatus flipped
    rw [named] at before after chunks
    rw [committed] at found
    obtain rfl := Option.some.inj (after.symm.trans found)
    have recorded : state.database.registry.get site.ref.pubId = some old := before
    have hash : site.contentHash html = .ok old.contentHash := by
      simp only [CommitsRecorded, fetched, recorded, done] at meets
      exact meets rfl
    exact ⟨html, pub.sourceUrl, parsed, hash, read, by rw [committed, chunks]⟩
  · rw [committed] at found
    have reflects := indexed row found ingested
    rwa [← committed] at reflects

/-- Every event that commits recorded versions only keeps the invariant. -/
theorem invariant_of_step (holds : site.Invariant state) {event : CrawlEvent}
    (meets : site.CommitsRecorded state event) (moved : site.step state event = some next) :
    site.Invariant next := by
  -- Only the two commits write, and each has its own lemma.
  obtain ⟨indexed, target⟩ := holds
  cases event with
  | pageChanges html =>
    cases moved
    exact ⟨indexed, target⟩
  | crawlFetch =>
    cases moved
    exact ⟨indexed, target⟩
  | crawlCommit referencedByModels now =>
    obtain ⟨html, _, rfl⟩ := Option.map_eq_some_iff.mp moved
    exact ⟨indexed_of_record indexed rfl rfl, target⟩
  | crawlAbort =>
    cases moved
    exact ⟨indexed, target⟩
  -- The target is the row that the registry holds for the id.
  | ingestRead =>
    obtain ⟨pub, found, rfl⟩ := Option.map_eq_some_iff.mp moved
    refine ⟨indexed, fun other same => ?_⟩
    cases same
    exact pubId_of_get found
  | ingestFetch =>
    cases carried : state.ingester with
    | targeted pub =>
      simp only [step, carried] at moved
      cases moved
      rw [carried] at target
      exact ⟨indexed, target⟩
    | idle => simp [step, carried] at moved
    | fetched pub html => simp [step, carried] at moved
  | ingestCommit =>
    cases carried : state.ingester with
    | fetched pub html =>
      simp only [step, carried] at moved
      cases moved
      -- The commit writes under the id of the target.
      have named : pub.pubId = site.ref.pubId := target pub (by rw [carried]; rfl)
      exact ⟨indexed_of_commit indexed named carried meets rfl, nofun⟩
    | idle => simp [step, carried] at moved
    | targeted pub => simp [step, carried] at moved
  | ingestAbort =>
    cases moved
    exact ⟨indexed, nofun⟩

/-- The invariant holds at the start. -/
theorem invariant_of_starts (starts : site.Starts state) : site.Invariant state where
  indexed row found := by simp [starts.unrecorded] at found
  on_target pub carried := by simp [starts.ingester_idle, Ingester.target] at carried

/-- No order of events loses a change, when every ingestion commits the recorded version. -/
theorem indexed_as_recorded {start final : CrawlState} {events : List CrawlEvent}
    (starts : site.Starts start) (meets : Meets site.step site.CommitsRecorded start events)
    (ran : run site.step start events = some final) : site.IndexedAsRecorded final :=
  -- The invariant is kept by every step and holds this as its part.
  (invariant_of_run (fun _ _ _ holds meets moved => invariant_of_step holds meets moved)
    (invariant_of_starts starts) meets ran).indexed

/-- In every order of events a publication that counts as ingested is indexed as it was recorded. -/
def NoChangeLost (site : Site) (start : CrawlState) : Prop :=
  ∀ events final, run site.step start events = some final → site.IndexedAsRecorded final

end Site

/-- The data of a page that states a torque. -/
def topCapData (torque : String) : String :=
  "\x7b\"title\": \"Pike\", \"modules\": [\x7b\"title\": \"Top cap: " ++ torque ++ "\"\x7d]\x7d"

/-- That data as a JSON value. -/
def topCapJson (torque : String) : Json :=
  .obj [("title", .str "Pike"), ("modules", .arr [.obj [("title", .str ("Top cap: " ++ torque))]])]

/-- A page that states a torque. -/
def topCapPage (torque : String) : String :=
  "<script id=\"manual-data\">" ++ topCapData torque ++ "</script>"

/-- The hash of the first version. -/
def firstHash : String := "063e4379af541c4c703f5105d4c4218ee9a576c7b9fde197d40d43cd54788a12"

/-- The hash of the second version. -/
def secondHash : String := "e50ce89dd193813f1fc67f84754706153182620e0c3c15ae7deec71178d57c65"

/-- A site of one publication, with the library results for two versions of its page. -/
def topCapSite : Site where
  -- The page shows either of two torque values.
  ref :=
    { pubId := "6TmfV97fHWv8kvGXVegoTy"
      sourceUrl := "https://docs.sram.com/en-US/publications/6TmfV97fHWv8kvGXVegoTy" }
  pipeline :=
    { order := .textual
      fetch := fun _ => none
      embedDocuments := fun texts => some (texts.map fun _ => [])
      library :=
        { tableInterpreter [(topCapData "7.3 N-m", topCapJson "7.3 N-m"),
            (topCapData "28 N-m", topCapJson "28 N-m")] with
          sha256Hex := fun text =>
            if text = topCapData "7.3 N-m" then firstHash
            else if text = topCapData "28 N-m" then secondHash
            else text
          unescape := fun text => text
          repr := fun text => "'" ++ text ++ "'" } }

/-- An empty database and a page that nobody has seen. -/
def topCapStart : CrawlState where
  -- Nothing has been crawled or indexed.
  page := topCapPage "7.3 N-m"
  database := { store := .empty, registry := {} }
  crawled := none
  ingester := .idle

/-- Nobody has recorded the publication at the start. -/
theorem topCapStart_starts : topCapSite.Starts topCapStart := ⟨rfl, rfl, rfl⟩

/-- The page is recorded and then indexed. -/
def quietEvents : List CrawlEvent :=
  [.crawlFetch, .crawlCommit ["ed-red-e1"] 1, .ingestRead, .ingestFetch, .ingestCommit]

/-- What a state shows: the indexed texts, and the status and hash of the recorded publication. -/
def CrawlState.shows (state : CrawlState) : List String × Option (PublicationStatus × String) :=
  -- What the index and the registry tell about the publication.
  ((state.database.store.indexedChunks topCapSite.ref.pubId).map ChunkValues.text,
    (state.database.registry.get topCapSite.ref.pubId).map fun row => (row.status, row.contentHash))

/-- Recorded and then indexed, the publication is indexed as it was recorded. -/
theorem indexed_as_recorded_top_cap :
    ∃ final, run topCapSite.step topCapStart quietEvents = some final ∧
      final.shows = (["Top cap: 7.3 N-m"], some (.ingested, firstHash)) ∧
        topCapSite.IndexedAsRecorded final := by
  -- The run is computed, and the theorem applied to its end.
  have shown : (run topCapSite.step topCapStart quietEvents).map CrawlState.shows =
      some (["Top cap: 7.3 N-m"], some (.ingested, firstHash)) := by decide +kernel
  obtain ⟨final, ran, shows⟩ := Option.map_eq_some_iff.mp shown
  exact ⟨final, ran, shows,
    Site.indexed_as_recorded topCapStart_starts (by decide +kernel) ran⟩

/-- The page changes and is recorded again between the fetch and the commit of the ingester. -/
def racingEvents : List CrawlEvent :=
  -- The last commit flips the status of a row that records the new page.
  [.crawlFetch, .crawlCommit ["ed-red-e1"] 1, .ingestRead, .ingestFetch,
    .pageChanges (topCapPage "28 N-m"), .crawlFetch, .crawlCommit ["ed-red-e1"] 2, .ingestCommit]

/-- A page with the hash of the second version has its texts. -/
theorem texts_of_secondHash {html sourceUrl : String} {parsed : ParsedPublication}
    (hash : topCapSite.contentHash html = .ok secondHash)
    (read : parsePublication topCapSite.pipeline.library html sourceUrl = .ok parsed) :
    parsed.chunks.map HtmlChunk.text = ["Top cap: 28 N-m"] := by
  -- The hash identifies the data, and the data decides the texts.
  obtain ⟨raw, data, blocks, extracted, loaded, divided, chunks⟩ := chunks_of_parsePublication read
  have digest : topCapSite.pipeline.library.sha256Hex raw = secondHash := by
    rw [Site.contentHash, extracted] at hash
    exact Except.ok.inj hash
  -- Any other data would have another digest, or would not load.
  have version : raw = topCapData "28 N-m" := by
    by_contra other
    by_cases first : raw = topCapData "7.3 N-m"
    · subst first
      exact absurd digest (by decide +kernel)
    · simp [topCapSite, tableInterpreter, Ne.symm first, Ne.symm other] at loaded
  subst version
  have known : topCapSite.pipeline.library.loads (topCapData "28 N-m") =
      .ok (topCapJson "28 N-m") := by
    have different : topCapData "28 N-m" ≠ topCapData "7.3 N-m" := by decide +kernel
    simp [topCapSite, tableInterpreter, different.symm]
  obtain rfl := Except.ok.inj (known.symm.trans loaded)
  have listed : publicationBlocks topCapSite.pipeline.library (topCapJson "28 N-m") =
      .ok [⟨"", none, none⟩, ⟨"Top cap: 28 N-m", none, none⟩, ⟨"", none, none⟩] := by
    decide +kernel
  obtain rfl := Except.ok.inj (listed.symm.trans divided)
  rw [chunks, texts_of_numberBlocks]
  decide +kernel

/-- The race ends with the second version recorded and the first version indexed as ingested. -/
theorem not_noChangeLost : ¬ topCapSite.NoChangeLost topCapStart := by
  intro always
  -- The run is computed, and its last state contradicts the property.
  have shown : (run topCapSite.step topCapStart racingEvents).map CrawlState.shows =
      some (["Top cap: 7.3 N-m"], some (.ingested, secondHash)) := by decide +kernel
  obtain ⟨final, ran, shows⟩ := Option.map_eq_some_iff.mp shown
  obtain ⟨texts, recorded⟩ := Prod.mk.injEq .. ▸ shows
  obtain ⟨row, found, status⟩ := Option.map_eq_some_iff.mp recorded
  obtain ⟨ingested, hash⟩ := Prod.mk.injEq .. ▸ status
  obtain ⟨html, sourceUrl, parsed, digest, read, indexed⟩ :=
    always racingEvents final ran row found ingested
  rw [hash] at digest
  -- The second version has other texts than those that are indexed.
  have second := texts_of_secondHash digest read
  rw [indexed, List.map_map] at texts
  exact absurd (second.symm.trans texts) (by decide)

end TorqueFinder
