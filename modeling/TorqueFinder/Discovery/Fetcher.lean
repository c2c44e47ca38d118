import TorqueFinder.Discovery.PublicationProbe
import TorqueFinder.Lib.History
import TorqueFinder.Lib.TextFile

/-! Fetching pages with a cache on disk: live calls write it, and other calls read it. -/

namespace TorqueFinder

open ExceptFlow History TextFile

/-- The sites as a call finds them. -/
structure Web where
  /-- Whether the `robots.txt` of its host lets the crawler have a page. -/
  canFetch : String → Bool
  /-- The decoded body at a URL, or the text of the HTTP error. -/
  reply : String → Except String String

/-- The files of the cache directory by name. -/
structure CacheDir where
  files : String → Option ByteArray

/-- A cache directory without files. -/
def CacheDir.empty : CacheDir where
  files _ := none

/-- Create or overwrite a file. -/
def CacheDir.write (cache : CacheDir) (name : String) (bytes : ByteArray) : CacheDir where
  files other := if other = name then some bytes else cache.files other

/-- How a page cannot be fetched. -/
inductive FetchFailure where
  /-- The domain error the crawler knows. -/
  | discovery (error : DiscoveryError)
  /-- A cached file is not UTF-8. -/
  | unicodeDecodeError
  deriving DecidableEq

/-- The settings of a fetcher that decide what it returns. -/
structure Fetcher where
  forceRefresh : Bool := false
  respectRobots : Bool := true
  deriving DecidableEq

/-- The name of the file a URL is cached in. -/
def cachePath (library : PageLibrary) (url : String) : String := library.sha256Hex url ++ ".txt"

namespace Fetcher

/-- Whether a page may be fetched. -/
def allowed (fetcher : Fetcher) (web : Web) (url : String) : Bool :=
  !fetcher.respectRobots || web.canFetch url

/-- The cached bytes that a call reads instead of going to the site. -/
def cached (fetcher : Fetcher) (library : PageLibrary) (cache : CacheDir) (url : String) :
    Option ByteArray :=
  -- A refreshing fetcher never reads the cache.
  if fetcher.forceRefresh then none else cache.files (cachePath library url)

/-- The body a live call gets from the site. -/
def fetchLive (fetcher : Fetcher) (web : Web) (url : String) : Except DiscoveryError String :=
  if fetcher.allowed web url then
    -- The rules of the site are looked at before the page is requested.
    match web.reply url with
    | .ok body => .ok body
    | .error cause => .error ⟨"fetch failed for " ++ url ++ ": " ++ cause⟩
  else .error ⟨"blocked by robots.txt: " ++ url⟩

/-- Fetch a page as text, from the cache or else from the site. -/
def get (fetcher : Fetcher) (library : PageLibrary) (web : Web) (url : String) (cache : CacheDir) :
    Except FetchFailure (String × CacheDir) :=
  match fetcher.cached library cache url with
  | some bytes =>
    -- A hit skips the network and the robots check.
    match readText bytes with
    | some text => .ok (text, cache)
    | none => .error .unicodeDecodeError
  | none => do
    let body ← (fetcher.fetchLive web url).mapError .discovery
    return (body, cache.write (cachePath library url) (writeText body))

end Fetcher

/-- One call: the fetcher it is made on, the sites as they are then, and the URL. -/
structure FetchCall where
  fetcher : Fetcher
  web : Web
  url : String

namespace FetchCall

/-- The cache a call leaves, which a failed one does not touch. -/
def perform (library : PageLibrary) (cache : CacheDir) (request : FetchCall) : CacheDir :=
  match request.fetcher.get library request.web request.url cache with
  | .ok (_, next) => next
  -- A request that fails writes nothing.
  | .error _ => cache

/-- The cache after a history of calls. -/
def cacheAfter (library : PageLibrary) (start : CacheDir) (history : List FetchCall) : CacheDir :=
  after (perform library) start history

/-- A live call of the URL that gets a body. -/
def fetches (library : PageLibrary) (start : CacheDir) (url : String) (past : List FetchCall)
    (request : FetchCall) : Bool :=
  -- The URL was missing in the cache, and the site answered.
  decide (request.url = url) &&
    ((request.fetcher.cached library (cacheAfter library start past) url).isNone &&
      (request.fetcher.fetchLive request.web url).isOk)

end FetchCall

section Laws

variable {library : PageLibrary} {cache next start : CacheDir} {url other text body : String}
  {fetcher : Fetcher} {web : Web} {request : FetchCall} {history : List FetchCall}

/-- Different URLs are cached in different files. -/
theorem cachePath_injective (injective : Function.Injective library.sha256Hex) :
    Function.Injective (cachePath library) := by
  -- The file name is the digest of the URL.
  intro first second same
  exact injective ((String.append_left_inj ".txt").mp same)

/-- Writing a file leaves the others. -/
theorem CacheDir.files_write_ne {name another : String} {bytes : ByteArray}
    (different : another ≠ name) : (cache.write name bytes).files another = cache.files another :=
  if_neg different

/-- A written file holds what was written. -/
@[simp] theorem CacheDir.files_write (name : String) (bytes : ByteArray) :
    (cache.write name bytes).files name = some bytes := if_pos rfl

namespace Fetcher

/-- A call succeeds with a text that is cached, or with a body that it caches. -/
theorem get_eq_ok (done : fetcher.get library web url cache = .ok (text, next)) :
    (∃ bytes, fetcher.cached library cache url = some bytes ∧ readText bytes = some text ∧
        next = cache) ∨
      fetcher.cached library cache url = none ∧ fetcher.fetchLive web url = .ok text ∧
        next = cache.write (cachePath library url) (writeText text) := by
  -- Whether the cache is read decides where the text comes from.
  unfold get at done
  cases hit : fetcher.cached library cache url with
  | some bytes =>
    rw [hit] at done
    dsimp only at done
    cases decoded : readText bytes with
    | some cachedText =>
      rw [decoded] at done
      cases done
      exact Or.inl ⟨bytes, rfl, decoded, rfl⟩
    | none =>
      rw [decoded] at done
      cases done
  | none =>
    rw [hit] at done
    obtain ⟨live, fetched, done⟩ := bind_eq_ok.mp done
    cases done
    exact Or.inr ⟨rfl, mapError_eq_ok.mp fetched, rfl⟩

/-- A call without a hit that reaches the site returns the body and caches it. -/
theorem get_of_fetched (miss : fetcher.cached library cache url = none)
    (fetched : fetcher.fetchLive web url = .ok body) :
    fetcher.get library web url cache =
      .ok (body, cache.write (cachePath library url) (writeText body)) := by
  -- What was fetched is written to the cache before it is returned.
  rw [get, miss, fetched]
  rfl

/-- A call that reads the cache reads what stands in the file of the URL. -/
theorem get_of_cached {bytes : ByteArray} (reads : fetcher.forceRefresh = false)
    (stored : cache.files (cachePath library url) = some bytes)
    (decoded : readText bytes = some text) :
    fetcher.get library web url cache = .ok (text, cache) := by
  -- The file is there and may be read.
  rw [get, cached, reads, if_neg (by decide), stored]
  dsimp only
  rw [decoded]

/-- A call leaves the file of every other URL. -/
theorem files_of_ne (injective : Function.Injective library.sha256Hex) (different : url ≠ other)
    (done : fetcher.get library web other cache = .ok (text, next)) :
    next.files (cachePath library url) = cache.files (cachePath library url) := by
  -- A live call writes the file of its own URL only.
  rcases get_eq_ok done with ⟨_, _, _, rfl⟩ | ⟨_, _, rfl⟩
  · rfl
  · exact CacheDir.files_write_ne fun same => different (cachePath_injective injective same)

end Fetcher

namespace FetchCall

/-- Only a live call of a URL that gets a body changes the file of the URL. -/
theorem files_perform (injective : Function.Injective library.sha256Hex)
    (other : fetches library start url history request = false) :
    (perform library (cacheAfter library start history) request).files (cachePath library url) =
      (cacheAfter library start history).files (cachePath library url) := by
  -- A call of another URL writes another file, and a hit writes none.
  unfold perform
  split
  · rename_i text next done
    by_cases same : url = request.url
    · subst same
      rcases Fetcher.get_eq_ok done with ⟨_, _, _, rfl⟩ | ⟨miss, fetched, _⟩
      · rfl
      · simp [fetches, miss, fetched, Except.isOk, Except.toBool] at other
    · exact Fetcher.files_of_ne injective same done
  · rfl

/-- The file of a URL holds the body that the latest live call got. -/
theorem files_cacheAfter (injective : Function.Injective library.sha256Hex) (start : CacheDir)
    (history : List FetchCall) :
    ∀ request, latest (fetches library start url) history = some request →
      ∃ body, request.fetcher.fetchLive request.web url = .ok body ∧
        (cacheAfter library start history).files (cachePath library url) =
          some (writeText body) := by
  -- Every call either is a live one that writes the file, or leaves it.
  refine follows (fun history (cache : CacheDir) => ∀ request,
    latest (fetches library start url) history = some request →
      ∃ body, request.fetcher.fetchLive request.web url = .ok body ∧
        cache.files (cachePath library url) = some (writeText body)) ?_ ?_ history
  · intro request never
    cases never
  · intro history request before found counted
    rw [latest_concat] at counted
    split at counted
    · -- The call has reached the site and written what it got.
      rename_i live
      obtain rfl := Option.some.inj counted
      simp only [fetches, Bool.and_eq_true, decide_eq_true_eq] at live
      obtain ⟨same, miss, reached⟩ := live
      rw [Option.isNone_iff_eq_none] at miss
      cases fetched : request.fetcher.fetchLive request.web url with
      | error failure => simp [fetched, Except.isOk, Except.toBool] at reached
      | ok body =>
        refine ⟨body, rfl, ?_⟩
        have done := Fetcher.get_of_fetched miss fetched
        change (perform library (cacheAfter library start history) request).files _ = _
        rw [perform, same, done]
        exact CacheDir.files_write _ _
    · -- Any other call leaves the file of this URL.
      rename_i other
      obtain ⟨body, fetched, stored⟩ := before found counted
      refine ⟨body, fetched, ?_⟩
      rw [← stored]
      exact files_perform injective (Bool.eq_false_iff.mpr other)

end FetchCall

end Laws

end TorqueFinder
