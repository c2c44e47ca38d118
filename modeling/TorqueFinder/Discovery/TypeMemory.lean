import TorqueFinder.Discovery.Crawler
import TorqueFinder.Lib.History

/-! Whether the registry remembers the types of publications from one crawl to the next. -/

namespace TorqueFinder

open PyJson History

/-- The registry knows the type of a publication. -/
def TypeKnown (registry : Registry) (pubId : String) : Prop :=
  ∃ row, registry.getRow pubId = some row ∧ row.pubType ≠ ""

namespace DiscoveryCrawler

/-- A crawl that succeeds finds a typed link to the publication. -/
def Learns (crawler : DiscoveryCrawler) (crawl : Crawl) (pubId : String) : Prop :=
  (∃ pubs, crawler.discoveries crawl = .ok pubs) ∧
    LinkedTyped crawler crawl crawl.modelIds pubId

/-- The registry after some crawls, one committed after the other. -/
def afterCrawls (crawler : DiscoveryCrawler) (start : Registry) (crawls : List Crawl) : Registry :=
  after crawler.crawled start crawls

/-- What was known before a crawl or learned by it is known after it and after every later one. -/
def RemembersTypes (crawler : DiscoveryCrawler) (start : Registry) (crawls : List Crawl) : Prop :=
  ∀ earlier crawl later rest, crawls = earlier ++ crawl :: (later ++ rest) → ∀ pubId,
    TypeKnown (crawler.afterCrawls start earlier) pubId ∨ crawler.Learns crawl pubId →
      TypeKnown (crawler.afterCrawls start (earlier ++ crawl :: later)) pubId

/-- A type is new to a known row, or missing for it, only when the hash says what is needed. -/
def KeepsTypes (crawler : DiscoveryCrawler) (registry : Registry) (crawl : Crawl) : Prop :=
  ∀ pubs, crawler.discoveries crawl = .ok pubs → ∀ pub ∈ pubs, ∀ row,
    registry.getRow pub.pubId = some row →
      -- A typed link reaches an untyped row only with a new hash.
      (row.pubType = "" → pub.pubType ≠ "" → row.contentHash ≠ pub.contentHash) ∧
      -- A bare link reaches a typed row only with the recorded hash.
      (row.pubType ≠ "" → pub.pubType = "" → row.contentHash = pub.contentHash)

variable {crawler : DiscoveryCrawler} {crawl : Crawl} {registry start : Registry}
  {crawls : List Crawl} {pubId : String}

/-- A row seen again has a type whenever it or the link has, exactly when the hash permits it. -/
theorem seen_typed_iff (row : RegisteredPublication) (pub : DiscoveredPublication)
    (models : List String) (now : Nat) :
    (row.pubType ≠ "" ∨ pub.pubType ≠ "" → (Registry.seen pub models now row).pubType ≠ "") ↔
      (row.pubType = "" → pub.pubType ≠ "" → row.contentHash ≠ pub.contentHash) ∧
        (row.pubType ≠ "" → pub.pubType = "" → row.contentHash = pub.contentHash) := by
  -- A changed hash takes the type of the link, an unchanged one keeps that of the row.
  by_cases same : row.contentHash = pub.contentHash
  · have kept : (Registry.seen pub models now row).pubType = row.pubType := by
      simp [Registry.seen, same]
    rw [kept]
    grind
  · have taken : (Registry.seen pub models now row).pubType = pub.pubType := by
      simp [Registry.seen, same]
    rw [taken]
    grind

/-- One crawl forgets no type exactly when the hashes permit it for everything it finds. -/
theorem keepsTypes_iff :
    crawler.KeepsTypes registry crawl ↔
      ∀ pubId, TypeKnown registry pubId ∨ crawler.Learns crawl pubId →
        TypeKnown (crawler.crawled registry crawl) pubId := by
  rcases crawled_eq with ⟨pubs, gathered, found, crawled⟩ | ⟨⟨failure, failed⟩, crawled⟩
  · have distinct := discoveries_nodup found
    rw [crawled]
    constructor
    · intro keeps pubId known
      by_cases listed : pubId ∈ pubs.map DiscoveredPublication.pubId
      · obtain ⟨pub, member, rfl⟩ := List.mem_map.mp listed
        rw [TypeKnown, getRow_upsertAll_of_mem distinct member]
        refine ⟨_, rfl, ?_⟩
        -- Whatever the crawl learns about the publication it learns from its one link.
        have learned : crawler.Learns crawl pub.pubId → pub.pubType ≠ "" := by
          intro learns
          obtain ⟨_, linked⟩ := learns
          obtain ⟨other, otherMember, same, typed⟩ := (typed_discovery_iff found).mpr linked
          exact Table.eq_of_key distinct otherMember member same ▸ typed
        cases recorded : registry.getRow pub.pubId with
        | none =>
          rcases known with ⟨row, present, _⟩ | learns
          · cases recorded.symm.trans present
          · exact learned learns
        | some row =>
          refine (seen_typed_iff row pub _ _).mpr (keeps pubs found pub member row recorded) ?_
          refine known.imp ?_ learned
          intro remembered
          obtain ⟨other, present, typed⟩ := remembered
          exact Option.some.inj (present.symm.trans recorded) ▸ typed
      · rw [TypeKnown, getRow_upsertAll_of_not_mem listed]
        refine known.resolve_right fun learns => listed ?_
        obtain ⟨pub, member, rfl, _⟩ := (typed_discovery_iff found).mpr learns.2
        exact List.mem_map_of_mem member
    · intro remembers others alsoFound pub member row recorded
      obtain rfl : pubs = others := Except.ok.inj (found.symm.trans alsoFound)
      refine (seen_typed_iff row pub (gathered.referencedBy pub.pubId) crawl.now).mp
        fun typed => ?_
      -- What is known of the row or the link is known to the registry or learned.
      have known : TypeKnown registry pub.pubId ∨ crawler.Learns crawl pub.pubId :=
        typed.imp (fun typed => ⟨row, recorded, typed⟩) fun typed =>
          ⟨⟨pubs, found⟩, (typed_discovery_iff found).mp ⟨pub, member, rfl, typed⟩⟩
      obtain ⟨after, present, stillTyped⟩ := remembers pub.pubId known
      rw [getRow_upsertAll_of_mem distinct member, recorded] at present
      obtain rfl := Option.some.inj present
      exact stillTyped
  · -- A failed crawl learns nothing and changes nothing.
    rw [crawled]
    constructor
    · intro _ pubId known
      refine known.resolve_right fun learns => ?_
      obtain ⟨pubs, found⟩ := learns.1
      cases failed.symm.trans found
    · intro _ pubs found
      cases failed.symm.trans found

/-- A type that is known stays known over crawls that keep types. -/
theorem typeKnown_after {later : List Crawl}
    (keeps : ∀ earlier crawl rest, later = earlier ++ crawl :: rest →
      crawler.KeepsTypes (crawler.afterCrawls start earlier) crawl)
    (known : TypeKnown start pubId) : TypeKnown (crawler.afterCrawls start later) pubId := by
  -- The first crawl keeps the type, and the rest starts from the registry it leaves.
  induction later generalizing start with
  | nil => exact known
  | cons crawl rest ih =>
    change TypeKnown (crawler.afterCrawls (crawler.crawled start crawl) rest) pubId
    refine ih ?_ ?_
    · intro earlier next tail same
      exact keeps (crawl :: earlier) next tail (by rw [same]; rfl)
    · exact keepsTypes_iff.mp (keeps [] crawl rest rfl) pubId (Or.inl known)

/-- Types are never lost exactly when every crawl finds the registry in a state that permits it. -/
theorem remembersTypes_iff (crawler : DiscoveryCrawler) (start : Registry) (crawls : List Crawl) :
    crawler.RemembersTypes start crawls ↔
      ∀ earlier crawl rest, crawls = earlier ++ crawl :: rest →
        crawler.KeepsTypes (crawler.afterCrawls start earlier) crawl := by
  constructor
  · intro remembers earlier crawl rest same
    refine keepsTypes_iff.mpr fun pubId known => ?_
    have next := remembers earlier crawl [] rest same pubId known
    rwa [afterCrawls, after_concat] at next
  · intro keeps earlier crawl later rest same pubId known
    -- The crawl keeps the type, and so do the later ones one after the other.
    have next : TypeKnown (crawler.crawled (crawler.afterCrawls start earlier) crawl) pubId :=
      keepsTypes_iff.mp (keeps earlier crawl (later ++ rest) same) pubId known
    have split : crawler.afterCrawls start (earlier ++ crawl :: later) =
        crawler.afterCrawls (crawler.crawled (crawler.afterCrawls start earlier) crawl) later := by
      simp [afterCrawls, after]
    rw [split]
    refine typeKnown_after (fun between other tail cut => ?_) next
    have whole := keeps (earlier ++ crawl :: between) other (tail ++ rest) (by simp [same, cut])
    simpa [afterCrawls, after] using whole

end DiscoveryCrawler

/-- The data block of the publication that is linked twice. -/
def forkData : String := "\x7b\"title\": \"Fork\"\x7d"

/-- A crawler that can read that data block. -/
def forkCrawler : DiscoveryCrawler where
  baseUrl := "https://www.sram.com/"
  library :=
    { tableInterpreter [(forkData, .obj [("title", .str "Fork")])] with
      sha256Hex := fun text => text
      unescape := fun text => text
      repr := fun text => text }

/-- A crawl of one model page that links the publication with some text behind its id. -/
def forkCrawl (suffix : String) : Crawl where
  modelIds := ["fs-fork"]
  fetch url :=
    if url = "https://www.sram.com/en/service/models/fs-fork" then
      some ("https://docs.sram.com/en-US/publications/FORK1" ++ suffix)
    else some ("<script id=\"manual-data\">" ++ forkData ++ "</script>")
  now := 1

/-- A type that only appears on the second crawl never reaches the registry. -/
theorem not_remembersTypes :
    ¬ ∀ (crawler : DiscoveryCrawler) (crawls : List Crawl), crawler.RemembersTypes {} crawls := by
  intro always
  -- The second crawl finds the recorded hash, so the row is not updated.
  have untyped : ((forkCrawler.afterCrawls {} [forkCrawl " ", forkCrawl "/UM"]).getRow
      "FORK1").map RegisteredPublication.pubType = some "" := by decide +kernel
  have succeeds : (forkCrawler.discoveries (forkCrawl "/UM")).isOk = true := by decide +kernel
  have linked : DiscoveryCrawler.LinkedTyped forkCrawler (forkCrawl "/UM") ["fs-fork"] "FORK1" :=
    ⟨"fs-fork", List.mem_cons_self, "https://docs.sram.com/en-US/publications/FORK1" ++ "/UM",
      by decide +kernel, by decide +kernel⟩
  have found : ∃ pubs, forkCrawler.discoveries (forkCrawl "/UM") = .ok pubs := by
    cases result : forkCrawler.discoveries (forkCrawl "/UM") with
    | ok pubs => exact ⟨pubs, rfl⟩
    | error failure => simp [result, Except.isOk, Except.toBool] at succeeds
  obtain ⟨row, present, typed⟩ := always forkCrawler [forkCrawl " ", forkCrawl "/UM"]
    [forkCrawl " "] (forkCrawl "/UM") [] [] rfl "FORK1" (Or.inr ⟨found, linked⟩)
  change (forkCrawler.afterCrawls {} [forkCrawl " ", forkCrawl "/UM"]).getRow "FORK1" =
    some row at present
  rw [present] at untyped
  exact typed (Option.some.inj untyped)

end TorqueFinder
