import TorqueFinder.Discovery.CachedCrawl

/-! When reading a page from the cache is like getting it from the site. -/

namespace TorqueFinder

open History PyJson TextFile

/-- The hash that a page gives a publication, or why it gives none. -/
def pageHash (library : PageLibrary) (html : String) (ref : PublicationRef) :
    Except ProbeFailure String :=
  -- The hash is that of the publication the probe builds from the page.
  DiscoveredPublication.contentHash <$> buildPublication library html ref

open FetchCall in
/-- Reading a page with this body from the cache is like getting it from the site. -/
structure CacheTransparent (crawler : DiscoveryCrawler) (url body : String) : Prop where
  /-- After a live call that got the body, every hit returns it. -/
  sameText : ∀ start history request,
    latest (fetches crawler.library start url) history = some request →
      request.fetcher.fetchLive request.web url = .ok body →
        ∀ (fetcher : Fetcher) (web : Web), fetcher.forceRefresh = false →
          Prod.fst <$> fetcher.get crawler.library web url
            (cacheAfter crawler.library start history) = .ok body
  /-- The cached copy gives the hash of the live one. -/
  sameHash : ∀ start history request,
    latest (fetches crawler.library start url) history = some request →
      request.fetcher.fetchLive request.web url = .ok body →
        ∀ (fetcher : Fetcher) (web : Web) (ref : PublicationRef), fetcher.forceRefresh = false →
          ∃ text, Prod.fst <$> fetcher.get crawler.library web url
              (cacheAfter crawler.library start history) = .ok text ∧
            pageHash crawler.library text ref = pageHash crawler.library body ref
  /-- A crawl from the cache after a refreshing one that got the body finds nothing stale. -/
  neverStale : ∀ (first second : DiscoveryRun) (cache : CacheDir) (registry : Registry)
      (between : List FetchCall), first.fetcher.forceRefresh = true →
    first.web.reply url = .ok body → second.fetcher.forceRefresh = false →
      (∀ request ∈ between, request.fetcher.forceRefresh = false) →
        (crawler.discoverSeedThrough first cache registry).failure = none →
          ∀ report ∈ (crawler.discoverSeedThrough first cache registry).reports,
            ∀ again ∈ (crawler.discoverSeedThrough second
                (cacheAfter crawler.library (crawler.discoverSeedThrough first cache registry).cache
                  between)
                (crawler.discoverSeedThrough first cache registry).registry).reports,
              report.1.sourceUrl = url → again.1.sourceUrl = url →
                again.1.pubId = report.1.pubId → again.2 ≠ .stale

section Transparency

variable {library : PageLibrary} {start : CacheDir} {history : List FetchCall} {request : FetchCall}
  {url body : String}

/-- A hit returns the body of the latest live call, translated. -/
theorem FetchCall.hit_translates (injective : Function.Injective library.sha256Hex)
    (counted : latest (fetches library start url) history = some request)
    (fetched : request.fetcher.fetchLive request.web url = .ok body) {fetcher : Fetcher} (web : Web)
    (reads : fetcher.forceRefresh = false) :
    Prod.fst <$> fetcher.get library web url (cacheAfter library start history) =
      .ok (universalNewlines body) := by
  -- The file of the URL holds the body, which reading translates.
  obtain ⟨latestBody, also, stored⟩ := files_cacheAfter injective start history request counted
  obtain rfl : body = latestBody := Except.ok.inj (fetched.symm.trans also)
  have held : Held library url body (cacheAfter library start history) := stored
  rw [held.read reads]
  rfl

/-- A call of a page that the site lets it have, with a body. -/
def liveCall (url body : String) : FetchCall where
  -- The fetcher has its default settings, so a cached body would be used.
  fetcher := {}
  web := ⟨fun _ => true, fun _ => .ok body⟩
  url := url

/-- A first call of a page is live. -/
theorem latest_liveCall (library : PageLibrary) (url body : String) :
    latest (FetchCall.fetches library .empty url) [liveCall url body] =
      some (liveCall url body) := by
  -- An empty cache has no file to hit.
  refine if_pos ?_
  simp [FetchCall.fetches, liveCall, FetchCall.cacheAfter, after, Fetcher.cached, CacheDir.empty,
    Fetcher.fetchLive, Fetcher.allowed, Except.isOk, Except.toBool]

end Transparency

/-- The cache goes unnoticed exactly for the bodies without a carriage return. -/
theorem cacheTransparent_iff (crawler : DiscoveryCrawler)
    (injective : Function.Injective crawler.library.sha256Hex) (url body : String) :
    CacheTransparent crawler url body ↔ '\r' ∉ body.toList := by
  constructor
  · -- One live call into an empty cache and one hit show the difference.
    intro transparent
    have counted := latest_liveCall crawler.library url body
    have fetched : (liveCall url body).fetcher.fetchLive (liveCall url body).web url = .ok body :=
      rfl
    have hit := transparent.sameText _ _ _ counted fetched {} (liveCall url body).web rfl
    have translated := FetchCall.hit_translates injective counted fetched (liveCall url body).web
      (rfl : ({} : Fetcher).forceRefresh = false)
    exact universalNewlines_eq_self_iff.mp (Except.ok.inj (translated.symm.trans hit))
  · intro bare
    -- Without a carriage return nothing is translated.
    have same : universalNewlines body = body := universalNewlines_eq_self_iff.mpr bare
    have text : ∀ start history request,
        latest (FetchCall.fetches crawler.library start url) history = some request →
          request.fetcher.fetchLive request.web url = .ok body →
            ∀ (fetcher : Fetcher) (web : Web), fetcher.forceRefresh = false →
              Prod.fst <$> fetcher.get crawler.library web url
                (FetchCall.cacheAfter crawler.library start history) = .ok body := by
      intro start history request counted fetched fetcher web reads
      rw [FetchCall.hit_translates injective counted fetched web reads, same]
    refine ⟨text, ?_, ?_⟩
    · intro start history request counted fetched fetcher web ref reads
      exact ⟨body, text start history request counted fetched fetcher web reads, rfl⟩
    · intro first second cache registry between refreshes replied reads readsBetween _ report member
        again later linked linkedAgain named
      exact DiscoveryCrawler.not_stale_after_refresh injective bare refreshes replied reads
        readsBetween member later linked linkedAgain named

/-- Digests of some texts, where every other text is marked. -/
def tableDigest (table : List (String × String)) (text : String) : String :=
  match table.find? fun entry => entry.1 = text with
  | some entry => entry.2
  -- No digest of the table begins with an x.
  | none => "x" ++ text

/-- Different digests that carry no mark belong to different texts. -/
theorem tableDigest_injective {table : List (String × String)}
    (distinct : (table.map Prod.snd).Nodup)
    (unmarked : ∀ entry ∈ table, entry.2.toList.head? ≠ some 'x') :
    Function.Injective (tableDigest table) := by
  -- A marked digest starts with a letter that no other one starts with.
  have marked : ∀ text : String, ("x" ++ text).toList.head? = some 'x' := fun text => by
    rw [String.toList_append]
    rfl
  intro first second same
  unfold tableDigest at same
  cases found : table.find? fun entry => entry.1 = first with
  | some entry =>
    have member := List.mem_of_find?_eq_some found
    have left : entry.1 = first := by simpa using List.find?_some found
    cases also : table.find? fun entry => entry.1 = second with
    | some other =>
      rw [found, also] at same
      have right : other.1 = second := by simpa using List.find?_some also
      have equal := Table.eq_of_key distinct member (List.mem_of_find?_eq_some also) same
      rw [← left, ← right, equal]
    | none =>
      rw [found, also] at same
      dsimp only at same
      exact absurd (same ▸ marked second) (unmarked entry member)
  -- A digest of the table cannot be a marked one.
  | none =>
    cases also : table.find? fun entry => entry.1 = second with
    | some other =>
      rw [found, also] at same
      dsimp only at same
      exact absurd (same ▸ marked first) (unmarked other (List.mem_of_find?_eq_some also))
    | none =>
      rw [found, also] at same
      exact (String.append_right_inj "x").mp same

/-- The address of the page of a model. -/
def brakeModelUrl : String := "https://www.sram.com/en/service/models/db8-a1"

/-- The address of the page of its publication. -/
def brakeUrl : String := "https://docs.sram.com/en-US/publications/BRAKE1"

/-- The data block of the publication, given the end of its first line. -/
def brakeData (newline : String) : String := "\x7b\"title\":" ++ newline ++ "\"DB8\"\x7d"

/-- The page of the publication. -/
def brakePage (newline : String) : String :=
  "<script id=\"manual-data\">" ++ brakeData newline ++ "</script>"

/-- Digests of the two addresses and of the data block as it is sent and as it is cached. -/
def brakeDigests : List (String × String) :=
  [(brakeModelUrl, "5602254f395c5c41d6c6c9da9f01d1cc7fecae33258495c13d5a0a8a22fa3df0"),
    (brakeUrl, "e816be6a4e4c251ab9a05b0ce973053ae093b5c1cec35a005274ca73a8b9f218"),
    (brakeData "\r\n", "ee70910c67947461b4f88958b42f3a4b14284a98159ce75f760fa025d5442d41"),
    (brakeData "\n", "0af223f5d10c801dd3a25cd08ffcac3bb2582d050be6ab925d9c4af5f45c9f7f")]

/-- A crawler that can read that data block. -/
def brakeCrawler : DiscoveryCrawler where
  baseUrl := "https://www.sram.com"
  library :=
    -- Both spellings of the data read as the same object.
    { tableInterpreter [(brakeData "\r\n", .obj [("title", .str "DB8")]),
        (brakeData "\n", .obj [("title", .str "DB8")])] with
      sha256Hex := tableDigest brakeDigests
      unescape := fun text => text
      repr := fun text => "'" ++ text ++ "'" }

/-- No two texts have the same digest there. -/
theorem brakeCrawler_injective : Function.Injective brakeCrawler.library.sha256Hex :=
  tableDigest_injective (by decide +kernel) (by decide +kernel)

/-- A page of one line is read from the cache as it was sent. -/
theorem cacheTransparent_iff_oneLine : CacheTransparent brakeCrawler brakeUrl (brakePage "") :=
  (cacheTransparent_iff brakeCrawler brakeCrawler_injective brakeUrl _).mpr (by decide +kernel)

/-- A crawl of the model page, with or without the cache. -/
def brakeRun (forceRefresh : Bool) (now : Nat) : DiscoveryRun where
  fetcher := { forceRefresh }
  web :=
    { canFetch := fun _ => true
      reply := fun url =>
        -- The site writes its line breaks as a carriage return and a newline.
        .ok (if url = brakeModelUrl then "<a href=\"" ++ brakeUrl ++ "\">"
          else brakePage "\r\n") }
  modelIds := ["db8-a1"]
  now

/-- A page sent with carriage returns is stale as soon as it is read from the cache. -/
theorem not_cacheTransparent : ¬CacheTransparent brakeCrawler brakeUrl (brakePage "\r\n") := by
  intro transparent
  -- The registry has the hash of the page as it was sent, and the cache no returns.
  have succeeds : (brakeCrawler.discoverSeedThrough (brakeRun true 0) .empty .empty).failure =
      none := by decide +kernel
  have first : (⟨"BRAKE1", "", brakeUrl⟩, UpsertOutcome.inserted) ∈
      (brakeCrawler.discoverSeedThrough (brakeRun true 0) .empty .empty).reports := by
    decide +kernel
  have second : (⟨"BRAKE1", "", brakeUrl⟩, UpsertOutcome.stale) ∈
      (brakeCrawler.discoverSeedThrough (brakeRun false 1)
        (brakeCrawler.discoverSeedThrough (brakeRun true 0) .empty .empty).cache
        (brakeCrawler.discoverSeedThrough (brakeRun true 0) .empty .empty).registry).reports := by
    decide +kernel
  exact transparent.neverStale (brakeRun true 0) (brakeRun false 1) .empty .empty [] rfl rfl rfl
    (fun _ never => absurd never List.not_mem_nil) succeeds _ first _ second rfl rfl rfl rfl

end TorqueFinder
