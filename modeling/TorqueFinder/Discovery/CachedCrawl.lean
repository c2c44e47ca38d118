import TorqueFinder.Discovery.Crawler
import TorqueFinder.Discovery.Fetcher

/-! Crawls through the cache on disk, and what they keep in it and in the registry. -/

namespace TorqueFinder

open ExceptFlow History TextFile

/-- One run of the discovery command: its fetcher, the sites, the models, and the second it ends. -/
structure DiscoveryRun where
  fetcher : Fetcher
  web : Web
  modelIds : List String
  now : Nat

/-- How far a crawl gets: the cache and the registry it leaves, and what its upserts reported. -/
structure CrawlProgress where
  cache : CacheDir
  registry : Registry
  reports : List (PublicationRef × UpsertOutcome)
  failure : Option CrawlFailure

namespace DiscoveryCrawler

/-- Gather the references of the model pages, fetching each through the cache. -/
def gatherThrough (crawler : DiscoveryCrawler) (crawlRun : DiscoveryRun) :
    CacheDir → GatheredRefs → List String → CacheDir × Except CrawlFailure GatheredRefs
  | cache, gathered, [] => (cache, .ok gathered)
  | cache, gathered, modelId :: rest =>
    let url := crawler.modelUrl modelId
    match crawlRun.fetcher.get crawler.library crawlRun.web url cache with
    -- A page that cannot be fetched ends the crawl, and what was cached stays.
    | .error _ => (cache, .error (.fetch url))
    | .ok (html, next) =>
      -- The links of the page join those of the pages before it.
      let found := parsePublicationRefs html
      gatherThrough crawler crawlRun next
        { refs := found.foldl noteRef gathered.refs
          mentions := gathered.mentions ++ found.map fun ref => (ref.pubId, modelId) } rest

/-- Probe and upsert the publications one after the other, fetching each through the cache. -/
def upsertThrough (crawler : DiscoveryCrawler) (crawlRun : DiscoveryRun)
    (gathered : GatheredRefs) : CacheDir → Registry → List PublicationRef → CrawlProgress
  | cache, registry, [] => ⟨cache, registry, [], none⟩
  | cache, registry, ref :: rest =>
    match crawlRun.fetcher.get crawler.library crawlRun.web ref.sourceUrl cache with
    | .error _ => ⟨cache, registry, [], some (.fetch ref.sourceUrl)⟩
    | .ok (html, next) =>
      match buildPublication crawler.library html ref with
      -- The page was cached before its data could not be read.
      | .error failure => ⟨next, registry, [], some (.probe failure)⟩
      | .ok pub =>
        -- The registry is written publication by publication.
        let upserted := registry.upsert pub (gathered.referencedBy ref.pubId) crawlRun.now
        let later := upsertThrough crawler crawlRun gathered next upserted.1 rest
        { later with reports := (ref, upserted.2) :: later.reports }

/-- A whole crawl of the model pages, from a cache and a registry. -/
def discoverSeedThrough (crawler : DiscoveryCrawler) (crawlRun : DiscoveryRun) (cache : CacheDir)
    (registry : Registry) : CrawlProgress :=
  match gatherThrough crawler crawlRun cache {} crawlRun.modelIds with
  -- Nothing is upserted before all model pages are read.
  | (next, .error failure) => ⟨next, registry, [], some failure⟩
  | (next, .ok gathered) => upsertThrough crawler crawlRun gathered next registry gathered.refs

end DiscoveryCrawler

/-- The page at the URL is cached with this body. -/
def Held (library : PageLibrary) (url body : String) (cache : CacheDir) : Prop :=
  cache.files (cachePath library url) = some (writeText body)

/-- A fetcher that reads cached pages, or finds this body at the URL. -/
def Rereads (fetcher : Fetcher) (web : Web) (url body : String) : Prop :=
  fetcher.forceRefresh = false ∨ web.reply url = .ok body

/-- The registry records this hash for a publication. -/
def HashRecorded (registry : Registry) (pubId hash : String) : Prop :=
  ∃ row, registry.getRow pubId = some row ∧ row.contentHash = hash

/-- A crawl that asks the sites for every page, as one that sees what they answer. -/
def DiscoveryRun.live (crawlRun : DiscoveryRun) : Crawl where
  -- Without a cache, a request ends as the site answers it.
  modelIds := crawlRun.modelIds
  fetch url := (crawlRun.fetcher.fetchLive crawlRun.web url).toOption
  now := crawlRun.now

section Cache

variable {library : PageLibrary} {cache next : CacheDir} {url other text body : String}
  {fetcher : Fetcher} {web : Web}

/-- A live body is what the site replies. -/
theorem Fetcher.reply_of_fetchLive (fetched : fetcher.fetchLive web url = .ok text) :
    web.reply url = .ok text := by
  -- A page that may not be fetched and a failed reply both end in an error.
  unfold fetchLive at fetched
  split at fetched
  · split at fetched
    · rename_i body replied
      cases fetched
      exact replied
    · cases fetched
  · cases fetched

/-- A call keeps a cached page when it reads it or gets its body again. -/
theorem Held.get (injective : Function.Injective library.sha256Hex)
    (held : Held library url body cache) (rereads : Rereads fetcher web url body)
    (done : fetcher.get library web other cache = .ok (text, next)) :
    Held library url body next := by
  by_cases same : url = other
  · subst same
    rcases Fetcher.get_eq_ok done with ⟨_, _, _, rfl⟩ | ⟨miss, fetched, rfl⟩
    · exact held
    · -- The page was cached, so only a refreshing call goes to the site.
      rcases rereads with reads | replied
      · rw [Fetcher.cached, reads, if_neg (by decide), held] at miss
        cases miss
      · have again := (Fetcher.reply_of_fetchLive fetched).symm.trans replied
        obtain rfl := Except.ok.inj again
        exact CacheDir.files_write _ _
  · exact (Fetcher.files_of_ne injective same done).trans held

/-- Calls that read cached pages keep them. -/
theorem Held.cacheAfter (injective : Function.Injective library.sha256Hex)
    (held : Held library url body cache) {between : List FetchCall}
    (reads : ∀ request ∈ between, request.fetcher.forceRefresh = false) :
    Held library url body (FetchCall.cacheAfter library cache between) := by
  -- The first call keeps the page, and the later ones start from there.
  induction between generalizing cache with
  | nil => exact held
  | cons request rest ih =>
    refine ih ?_ fun later member => reads later (List.mem_cons_of_mem _ member)
    unfold FetchCall.perform
    split
    · rename_i text next done
      exact held.get injective (Or.inl (reads request List.mem_cons_self)) done
    · exact held

/-- A page that is cached reads back translated. -/
theorem Held.read (held : Held library url body cache) (reads : fetcher.forceRefresh = false) :
    fetcher.get library web url cache = .ok (universalNewlines body, cache) :=
  Fetcher.get_of_cached reads held (readText_writeText body)

end Cache

section Recording

variable {registry : Registry} {pubId hash : String} {models : List String} {now : Nat}

/-- An upsert of another publication leaves what is recorded. -/
theorem HashRecorded.upsert (recorded : HashRecorded registry pubId hash)
    {pub : DiscoveredPublication} (different : pub.pubId ≠ pubId) :
    HashRecorded (registry.upsert pub models now).1 pubId hash := by
  -- The row is looked up by its own id.
  obtain ⟨row, found, same⟩ := recorded
  exact ⟨row, (Registry.getRow_upsert_ne models now different).trans found, same⟩

/-- An upsert records the hash of the publication. -/
theorem hashRecorded_upsert (registry : Registry) (pub : DiscoveredPublication)
    (models : List String) (now : Nat) :
    HashRecorded (registry.upsert pub models now).1 pub.pubId pub.contentHash := by
  -- The hash is that of the publication, whether it was known before or not.
  refine ⟨_, Registry.getRow_upsert pub models now, ?_⟩
  cases registry.getRow pub.pubId with
  | none => rfl
  | some row => exact Registry.seen_contentHash pub models now row

/-- An upsert with the recorded hash reports no change. -/
theorem HashRecorded.not_stale {pub : DiscoveredPublication}
    (recorded : HashRecorded registry pub.pubId pub.contentHash) :
    (registry.upsert pub models now).2 ≠ .stale := by
  -- The row that is there has the hash of the publication, which is what is compared.
  obtain ⟨row, found, same⟩ := recorded
  unfold Registry.upsert
  split
  · exact UpsertOutcome.noConfusion
  · rename_i other also
    obtain rfl : row = other := Option.some.inj (found.symm.trans also)
    rw [if_neg (not_not.mpr same)]
    exact UpsertOutcome.noConfusion

end Recording

namespace DiscoveryCrawler

variable {crawler : DiscoveryCrawler} {crawlRun : DiscoveryRun} {gathered final : GatheredRefs}
  {cache next : CacheDir} {registry : Registry} {refs : List PublicationRef} {url body : String}

/-- Gathering through the cache keeps one reference for each publication. -/
theorem gatherThrough_nodup {modelIds : List String}
    (distinct : (gathered.refs.map PublicationRef.pubId).Nodup)
    (done : gatherThrough crawler crawlRun cache gathered modelIds = (next, .ok final)) :
    (final.refs.map PublicationRef.pubId).Nodup := by
  -- The pages are read from the first model on.
  induction modelIds generalizing cache gathered with
  | nil =>
    cases done
    exact distinct
  | cons modelId rest ih =>
    unfold gatherThrough at done
    dsimp only at done
    split at done
    · cases done
    · exact ih (foldl_noteRef_nodup distinct) done

/-- Gathering keeps a cached page. -/
theorem held_gatherThrough (injective : Function.Injective crawler.library.sha256Hex)
    (rereads : Rereads crawlRun.fetcher crawlRun.web url body) (modelIds : List String)
    (held : Held crawler.library url body cache) :
    Held crawler.library url body
      (gatherThrough crawler crawlRun cache gathered modelIds).1 := by
  -- Each model page that is fetched keeps it.
  induction modelIds generalizing cache gathered with
  | nil => exact held
  | cons modelId rest ih =>
    unfold gatherThrough
    dsimp only
    split
    · exact held
    · rename_i html after done
      exact ih (held.get injective rereads done)

/-- The first publication is fetched, probed and upserted, or the crawl ends with it. -/
theorem upsertThrough_cons (crawler : DiscoveryCrawler) (crawlRun : DiscoveryRun)
    (gathered : GatheredRefs) (cache : CacheDir) (registry : Registry) (ref : PublicationRef)
    (rest : List PublicationRef) :
    (∃ html next pub,
        crawlRun.fetcher.get crawler.library crawlRun.web ref.sourceUrl cache = .ok (html, next) ∧
        buildPublication crawler.library html ref = .ok pub ∧
        let upserted := registry.upsert pub (gathered.referencedBy ref.pubId) crawlRun.now
        let later := upsertThrough crawler crawlRun gathered next upserted.1 rest
        upsertThrough crawler crawlRun gathered cache registry (ref :: rest) =
          { later with reports := (ref, upserted.2) :: later.reports }) ∨
      ∃ next failure,
        upsertThrough crawler crawlRun gathered cache registry (ref :: rest) =
          ⟨next, registry, [], some failure⟩ ∧
        (next = cache ∨ ∃ html,
          crawlRun.fetcher.get crawler.library crawlRun.web ref.sourceUrl cache =
            .ok (html, next)) := by
  -- The page may not come, or give no publication, and else it is upserted.
  cases fetched : crawlRun.fetcher.get crawler.library crawlRun.web ref.sourceUrl cache with
  | error failure =>
    refine Or.inr ⟨cache, .fetch ref.sourceUrl, ?_, Or.inl rfl⟩
    simp only [upsertThrough, fetched]
  | ok result =>
    obtain ⟨html, next⟩ := result
    cases built : buildPublication crawler.library html ref with
    | error failure =>
      refine Or.inr ⟨next, .probe failure, ?_, Or.inr ⟨html, rfl⟩⟩
      simp only [upsertThrough, fetched, built]
    | ok pub =>
      refine Or.inl ⟨html, next, pub, rfl, built, ?_⟩
      simp only [upsertThrough, fetched, built]

/-- Probing keeps a cached page. -/
theorem held_upsertThrough (injective : Function.Injective crawler.library.sha256Hex)
    (rereads : Rereads crawlRun.fetcher crawlRun.web url body) (refs : List PublicationRef)
    (held : Held crawler.library url body cache) :
    Held crawler.library url body
      (upsertThrough crawler crawlRun gathered cache registry refs).cache := by
  -- Each publication page that is fetched keeps it, also the one that ends the crawl.
  induction refs generalizing cache registry with
  | nil => exact held
  | cons ref rest ih =>
    rcases upsertThrough_cons crawler crawlRun gathered cache registry ref rest with
      ⟨html, next, pub, done, _, went⟩ | ⟨next, failure, ended, reached⟩
    · rw [went]
      exact ih (held.get injective rereads done)
    · rw [ended]
      rcases reached with rfl | ⟨html, done⟩
      · exact held
      · exact held.get injective rereads done

/-- Only the listed publications are reported on. -/
theorem mem_of_reported {report : PublicationRef × UpsertOutcome}
    (member : report ∈ (upsertThrough crawler crawlRun gathered cache registry refs).reports) :
    report.1 ∈ refs := by
  -- A crawl that ends early reports on those in front only.
  induction refs generalizing cache registry with
  | nil => cases member
  | cons ref rest ih =>
    rcases upsertThrough_cons crawler crawlRun gathered cache registry ref rest with
      ⟨html, next, pub, _, _, went⟩ | ⟨next, failure, ended, _⟩
    · rw [went] at member
      rcases List.mem_cons.mp member with rfl | later
      · exact List.mem_cons_self
      · exact List.mem_cons_of_mem _ (ih later)
    · rw [ended] at member
      cases member

/-- Upserts of other publications leave what is recorded. -/
theorem hashRecorded_upsertThrough {pubId hash : String}
    (absent : pubId ∉ refs.map PublicationRef.pubId) (recorded : HashRecorded registry pubId hash) :
    HashRecorded (upsertThrough crawler crawlRun gathered cache registry refs).registry pubId
      hash := by
  -- None of the upserts is about the publication.
  induction refs generalizing cache registry with
  | nil => exact recorded
  | cons ref rest ih =>
    obtain ⟨other, others⟩ := List.ne_and_not_mem_of_not_mem_cons absent
    rcases upsertThrough_cons crawler crawlRun gathered cache registry ref rest with
      ⟨html, next, pub, _, built, went⟩ | ⟨next, failure, ended, _⟩
    · rw [went]
      obtain ⟨raw, data, _, rfl⟩ := buildPublication_eq_ok built
      exact ih others (recorded.upsert (Ne.symm other))
    · rw [ended]
      exact recorded

/-- A refreshing call returns what the site replies, and caches it. -/
theorem Fetcher.get_refreshing {library : PageLibrary} {fetcher : Fetcher} {web : Web}
    {text : String} (refreshes : fetcher.forceRefresh = true) (replied : web.reply url = .ok body)
    (done : fetcher.get library web url cache = .ok (text, next)) :
    text = body ∧ Held library url body next := by
  -- Nothing cached is read, so the text is the reply.
  rcases Fetcher.get_eq_ok done with ⟨bytes, hit, _⟩ | ⟨_, fetched, rfl⟩
  · rw [Fetcher.cached, refreshes, if_pos rfl] at hit
    cases hit
  · have same := (Fetcher.reply_of_fetchLive fetched).symm.trans replied
    obtain rfl := Except.ok.inj same
    exact ⟨rfl, CacheDir.files_write _ _⟩

/-- A crawl that gets the body for a publication caches it and records the hash of its data. -/
theorem held_hashRecorded_of_reported (injective : Function.Injective crawler.library.sha256Hex)
    (refreshes : crawlRun.fetcher.forceRefresh = true) (replied : crawlRun.web.reply url = .ok body)
    (distinct : (refs.map PublicationRef.pubId).Nodup) {report : PublicationRef × UpsertOutcome}
    (member : report ∈ (upsertThrough crawler crawlRun gathered cache registry refs).reports)
    (linked : report.1.sourceUrl = url) :
    Held crawler.library url body
        (upsertThrough crawler crawlRun gathered cache registry refs).cache ∧
      ∃ raw, extractManualDataJson body = .ok raw ∧
        HashRecorded (upsertThrough crawler crawlRun gathered cache registry refs).registry
          report.1.pubId (crawler.library.sha256Hex raw) := by
  -- The induction is on the publications, and those behind the reported one keep both.
  induction refs generalizing cache registry with
  | nil => cases member
  | cons ref rest ih =>
    obtain ⟨fresh, distinct⟩ := List.nodup_cons.mp distinct
    rcases upsertThrough_cons crawler crawlRun gathered cache registry ref rest with
      ⟨html, next, pub, done, built, went⟩ | ⟨next, failure, ended, _⟩
    · rw [went] at member ⊢
      rcases List.mem_cons.mp member with rfl | later
      · dsimp only at linked
        subst linked
        obtain ⟨rfl, held⟩ := Fetcher.get_refreshing refreshes replied done
        obtain ⟨raw, data, extracted, rfl⟩ := buildPublication_eq_ok built
        exact ⟨held_upsertThrough injective (Or.inr replied) rest held, raw, extracted,
          hashRecorded_upsertThrough fresh (hashRecorded_upsert _ _ _ _)⟩
      · exact ih distinct later
    · rw [ended] at member
      cases member

/-- A crawl that reads a page as it was when its hash was recorded does not find it stale. -/
theorem not_stale_of_recorded (injective : Function.Injective crawler.library.sha256Hex)
    (reads : crawlRun.fetcher.forceRefresh = false) (bare : '\r' ∉ body.toList) {pubId raw : String}
    (extracted : extractManualDataJson body = .ok raw)
    (held : Held crawler.library url body cache)
    (recorded : HashRecorded registry pubId (crawler.library.sha256Hex raw))
    (distinct : (refs.map PublicationRef.pubId).Nodup) {report : PublicationRef × UpsertOutcome}
    (member : report ∈ (upsertThrough crawler crawlRun gathered cache registry refs).reports)
    (linked : report.1.sourceUrl = url) (named : report.1.pubId = pubId) :
    report.2 ≠ .stale := by
  -- Publications in front of the reported one leave its row and its page.
  induction refs generalizing cache registry with
  | nil => cases member
  | cons ref rest ih =>
    obtain ⟨fresh, distinct⟩ := List.nodup_cons.mp distinct
    rcases upsertThrough_cons crawler crawlRun gathered cache registry ref rest with
      ⟨html, next, pub, done, built, went⟩ | ⟨next, failure, ended, _⟩
    · rw [went] at member
      obtain ⟨found, data, foundHere, rfl⟩ := buildPublication_eq_ok built
      rcases List.mem_cons.mp member with rfl | later
      · dsimp only at linked named ⊢
        subst linked named
        rw [held.read reads, universalNewlines_eq_self_iff.mpr bare] at done
        cases done
        obtain rfl : raw = found := Except.ok.inj (extracted.symm.trans foundHere)
        exact recorded.not_stale
      · -- The ids are distinct, so the reported one comes later.
        have other : ref.pubId ≠ pubId := by
          intro same
          rw [same, ← named] at fresh
          exact fresh (List.mem_map_of_mem (mem_of_reported later))
        exact ih (held.get injective (Or.inl reads) done) (recorded.upsert other) distinct later
    · -- A run that has ended reports nothing more.
      rw [ended] at member
      cases member

/-- A crawl that reports on something has gathered its publications, each once. -/
theorem gathered_of_reported {report : PublicationRef × UpsertOutcome}
    (member : report ∈ (crawler.discoverSeedThrough crawlRun cache registry).reports) :
    ∃ next gathered, gatherThrough crawler crawlRun cache {} crawlRun.modelIds =
        (next, .ok gathered) ∧
      (gathered.refs.map PublicationRef.pubId).Nodup ∧
      crawler.discoverSeedThrough crawlRun cache registry =
        upsertThrough crawler crawlRun gathered next registry gathered.refs := by
  -- Without gathered publications there would be no report.
  unfold discoverSeedThrough at member ⊢
  split at member
  · cases member
  · rename_i next gathered done
    have start : (({} : GatheredRefs).refs.map PublicationRef.pubId).Nodup := List.nodup_nil
    rw [done]
    exact ⟨next, gathered, rfl, gatherThrough_nodup start done, rfl⟩

/-- After a refreshing crawl that got a body without returns, the cache gives nothing stale. -/
theorem not_stale_after_refresh (injective : Function.Injective crawler.library.sha256Hex)
    (bare : '\r' ∉ body.toList) {second : DiscoveryRun} {between : List FetchCall}
    (refreshes : crawlRun.fetcher.forceRefresh = true) (replied : crawlRun.web.reply url = .ok body)
    (reads : second.fetcher.forceRefresh = false)
    (readsBetween : ∀ request ∈ between, request.fetcher.forceRefresh = false)
    {report again : PublicationRef × UpsertOutcome}
    (member : report ∈ (crawler.discoverSeedThrough crawlRun cache registry).reports)
    (later : again ∈ (crawler.discoverSeedThrough second
      (FetchCall.cacheAfter crawler.library
        (crawler.discoverSeedThrough crawlRun cache registry).cache between)
      (crawler.discoverSeedThrough crawlRun cache registry).registry).reports)
    (linked : report.1.sourceUrl = url) (linkedAgain : again.1.sourceUrl = url)
    (named : again.1.pubId = report.1.pubId) : again.2 ≠ .stale := by
  -- The first crawl leaves the page in the cache and its hash in the registry.
  obtain ⟨next, gathered, _, distinct, went⟩ := gathered_of_reported member
  rw [went] at member later
  obtain ⟨held, raw, extracted, recorded⟩ :=
    held_hashRecorded_of_reported injective refreshes replied distinct member linked
  -- Both are still there when the second crawl comes to the page.
  obtain ⟨others, regathered, gathering, distinctAgain, wentAgain⟩ := gathered_of_reported later
  rw [wentAgain] at later
  have gatheredHeld := @held_gatherThrough crawler second {} _ _ _ injective (Or.inl reads)
    second.modelIds (held.cacheAfter injective readsBetween)
  rw [gathering] at gatheredHeld
  exact not_stale_of_recorded injective reads bare extracted gatheredHeld recorded distinctAgain
    later linkedAgain named

/-- A refreshing call is a call of the site. -/
theorem get_live (refreshes : crawlRun.fetcher.forceRefresh = true) (library : PageLibrary)
    (cache : CacheDir) (url : String) :
    (∃ html next, crawlRun.fetcher.get library crawlRun.web url cache = .ok (html, next) ∧
        get crawlRun.live url = .ok html) ∨
      ∃ failure, crawlRun.fetcher.get library crawlRun.web url cache = .error failure ∧
        get crawlRun.live url = .error (.fetch url) := by
  -- Nothing cached is read, so only the reply of the site decides.
  have miss : crawlRun.fetcher.cached library cache url = none := by
    rw [Fetcher.cached, refreshes, if_pos rfl]
  cases fetched : crawlRun.fetcher.fetchLive crawlRun.web url with
  | ok html =>
    refine Or.inl ⟨html, _, Fetcher.get_of_fetched miss fetched, ?_⟩
    simp only [get, DiscoveryRun.live, fetched, Except.toOption]
  | error failure =>
    refine Or.inr ⟨.discovery failure, ?_, ?_⟩
    · rw [Fetcher.get, miss, fetched]
      rfl
    · simp only [get, DiscoveryRun.live, fetched, Except.toOption]

/-- Gathering with a refreshing fetcher is gathering what the sites answer. -/
theorem gather_live (refreshes : crawlRun.fetcher.forceRefresh = true) (modelIds : List String) :
    (gatherThrough crawler crawlRun cache gathered modelIds).2 =
      gather crawler crawlRun.live gathered modelIds := by
  -- Every model page is what the site answers, whatever the cache has become.
  induction modelIds generalizing cache gathered with
  | nil => rfl
  | cons modelId rest ih =>
    unfold gatherThrough gather
    rcases get_live refreshes crawler.library cache (crawler.modelUrl modelId) with
      ⟨html, next, fetched, seen⟩ | ⟨failure, fetched, seen⟩
    · rw [seen, ok_bind]
      simp only [fetched]
      exact ih
    · rw [seen, error_bind]
      simp only [fetched]

/-- Probing and upserting with a refreshing fetcher is doing so with what the sites answer. -/
theorem upsertRefs_live (refreshes : crawlRun.fetcher.forceRefresh = true) (upserted : Nat) :
    let progress := upsertThrough crawler crawlRun gathered cache registry refs
    upsertRefs crawler crawlRun.live gathered registry upserted refs =
      match progress.failure with
      | none => .ok (progress.registry, upserted + progress.reports.length)
      | some failure => .error failure := by
  -- The reports are as many as the upserts, and a failure ends both.
  induction refs generalizing cache registry upserted with
  | nil => rfl
  | cons ref rest ih =>
    unfold upsertThrough upsertRefs probe
    rcases get_live refreshes crawler.library cache ref.sourceUrl with
      ⟨html, next, fetched, seen⟩ | ⟨failure, fetched, seen⟩
    · rw [seen, ok_bind]
      simp only [fetched]
      cases built : buildPublication crawler.library html ref with
      | error failure => rfl
      | ok pub =>
        have later := @ih next
          (registry.upsert pub (gathered.referencedBy ref.pubId) crawlRun.now).1 (upserted + 1)
        refine later.trans ?_
        simp only [List.length_cons, Nat.add_assoc, Nat.add_comm 1]
    · rw [seen, error_bind]
      simp only [fetched]
      rfl

/-- A refreshing crawl leaves the registry that a crawl of the sites themselves leaves. -/
theorem crawled_live (refreshes : crawlRun.fetcher.forceRefresh = true) (cache : CacheDir)
    (registry : Registry) :
    let progress := crawler.discoverSeedThrough crawlRun cache registry
    crawler.crawled registry crawlRun.live =
      if progress.failure = none then progress.registry else registry := by
  -- Both parts of the crawl agree, whatever cache the first one leaves to the second.
  have gathering : (gatherThrough crawler crawlRun cache {} crawlRun.modelIds).2 =
      gather crawler crawlRun.live {} crawlRun.live.modelIds :=
    gather_live refreshes crawlRun.modelIds
  unfold crawled discoverSeed discoverSeedThrough
  rw [← gathering]
  cases gatherThrough crawler crawlRun cache {} crawlRun.modelIds with
  | mk next result =>
    cases result with
    | error failure => rfl
    | ok found =>
      have upserted := @upsertRefs_live crawler crawlRun found next registry found.refs refreshes 0
      dsimp only at upserted ⊢
      rw [ok_bind, upserted]
      cases (upsertThrough crawler crawlRun found next registry found.refs).failure <;> rfl

end DiscoveryCrawler

end TorqueFinder
