import TorqueFinder.Discovery.ModelPage
import TorqueFinder.Discovery.Registry
import TorqueFinder.Lib.ExceptFlow

/-! The discovery crawl: model pages, their publications once each, and an upsert for each. -/

namespace TorqueFinder

open PyText ExceptFlow

/-- What a crawler is configured with. -/
structure DiscoveryCrawler where
  library : PageLibrary
  baseUrl : String

/-- One crawl: the models it is given, the pages as it finds them, and the second it ends in. -/
structure Crawl where
  modelIds : List String
  /-- The text at a URL, where none stands for an exception. -/
  fetch : String → Option String
  now : Nat

/-- How a crawl fails. -/
inductive CrawlFailure where
  /-- A page could not be fetched. -/
  | fetch (url : String)
  /-- The page of a publication gave no metadata. -/
  | probe (failure : ProbeFailure)
  deriving DecidableEq

/-- What a crawl reports. -/
structure CrawlSummary where
  modelsCrawled : Nat
  publicationsFound : Nat
  publicationsUpserted : Nat
  deriving DecidableEq

/-- The references gathered so far, and which model mentioned which publication. -/
structure GatheredRefs where
  refs : List PublicationRef := []
  /-- Pairs of a publication and a model. -/
  mentions : List (String × String) := []

/-- The models that mention a publication, as a sorted set. -/
def GatheredRefs.referencedBy (gathered : GatheredRefs) (pubId : String) : List String :=
  sortedSet ((gathered.mentions.filter fun mention => mention.1 = pubId).map Prod.snd)

namespace DiscoveryCrawler

/-- The address of a model page. -/
def modelUrl (crawler : DiscoveryCrawler) (modelId : String) : String :=
  rstripChar '/' crawler.baseUrl ++ "/en/service/models/" ++ modelId

/-- Fetch a page. -/
def get (crawl : Crawl) (url : String) : Except CrawlFailure String :=
  match crawl.fetch url with
  | some html => .ok html
  -- An error of the fetcher ends the crawl.
  | none => .error (.fetch url)

/-- Gather the references of the model pages, page by page. -/
def gather (crawler : DiscoveryCrawler) (crawl : Crawl) :
    GatheredRefs → List String → Except CrawlFailure GatheredRefs
  | gathered, [] => .ok gathered
  | gathered, modelId :: rest => do
    let html ← get crawl (crawler.modelUrl modelId)
    let found := parsePublicationRefs html
    -- Across pages a typed reference is preferred as it is within one.
    gather crawler crawl
      { refs := found.foldl noteRef gathered.refs
        mentions := gathered.mentions ++ found.map fun ref => (ref.pubId, modelId) } rest

/-- Probe one publication. -/
def probe (crawler : DiscoveryCrawler) (crawl : Crawl) (ref : PublicationRef) :
    Except CrawlFailure DiscoveredPublication := do
  -- The page of the publication is fetched once more, for its data.
  let html ← get crawl ref.sourceUrl
  (buildPublication crawler.library html ref).mapError .probe

/-- Probe and upsert the publications one after the other, counting them. -/
def upsertRefs (crawler : DiscoveryCrawler) (crawl : Crawl) (gathered : GatheredRefs) :
    Registry → Nat → List PublicationRef → Except CrawlFailure (Registry × Nat)
  | registry, upserted, [] => .ok (registry, upserted)
  | registry, upserted, ref :: rest => do
    -- A page that cannot be probed ends the crawl, and the rest is not upserted.
    let pub ← probe crawler crawl ref
    let (registry, _) := registry.upsert pub (gathered.referencedBy ref.pubId) crawl.now
    upsertRefs crawler crawl gathered registry (upserted + 1) rest

/-- Crawl the model pages and upsert each publication they link to. -/
def discoverSeed (crawler : DiscoveryCrawler) (crawl : Crawl) (registry : Registry) :
    Except CrawlFailure (Registry × CrawlSummary) := do
  -- All model pages are read before the first publication is upserted.
  let gathered ← gather crawler crawl {} crawl.modelIds
  let (registry, upserted) ← upsertRefs crawler crawl gathered registry 0 gathered.refs
  return (registry, { modelsCrawled := crawl.modelIds.length
                      publicationsFound := gathered.refs.length
                      publicationsUpserted := upserted })

/-- The committed registry after a crawl, of which a failed one leaves nothing. -/
def crawled (crawler : DiscoveryCrawler) (registry : Registry) (crawl : Crawl) : Registry :=
  match crawler.discoverSeed crawl registry with
  | .ok (registry, _) => registry
  -- A crawl that fails is rolled back.
  | .error _ => registry

section Laws

variable {crawler : DiscoveryCrawler} {crawl : Crawl} {gathered final : GatheredRefs}
  {modelIds : List String} {registry next : Registry} {refs : List PublicationRef}
  {upserted total : Nat} {pubId : String}

/-- Gathering keeps one reference for each publication. -/
theorem gather_nodup (distinct : (gathered.refs.map PublicationRef.pubId).Nodup)
    (done : gather crawler crawl gathered modelIds = .ok final) :
    (final.refs.map PublicationRef.pubId).Nodup := by
  -- Each page adds its references without repeating one.
  induction modelIds generalizing gathered with
  | nil => exact Except.ok.inj done ▸ distinct
  | cons modelId rest ih =>
    obtain ⟨html, _, done⟩ := bind_eq_ok.mp done
    exact ih (foldl_noteRef_nodup distinct) done

/-- A typed link to the publication stands on the page of one of the models. -/
def LinkedTyped (crawler : DiscoveryCrawler) (crawl : Crawl) (modelIds : List String)
    (pubId : String) : Prop :=
  -- The page of one of the models has the link, with the type in it.
  ∃ modelId ∈ modelIds, ∃ html, crawl.fetch (crawler.modelUrl modelId) = some html ∧
    TypedIn pubId (publicationLinks html)

/-- A gathered reference has a type exactly when one of the pages links the publication with one. -/
theorem typedIn_gather (done : gather crawler crawl gathered modelIds = .ok final) :
    TypedIn pubId final.refs ↔
      TypedIn pubId gathered.refs ∨ LinkedTyped crawler crawl modelIds pubId := by
  -- The pages are read from the first model on.
  induction modelIds generalizing gathered with
  | nil =>
    cases done
    simp [LinkedTyped]
  | cons modelId rest ih =>
    obtain ⟨html, fetched, done⟩ := bind_eq_ok.mp done
    have page : crawl.fetch (crawler.modelUrl modelId) = some html := by
      unfold get at fetched
      split at fetched
      · rename_i found
        cases fetched
        exact found
      · cases fetched
    rw [ih done, typedIn_foldl_noteRef, typedIn_parsePublicationRefs, or_assoc]
    simp only [LinkedTyped, List.mem_cons, or_and_right, exists_or, exists_eq_left, page,
      Option.some.injEq, exists_eq_left']

/-- The publications a crawl discovers, without the upserts. -/
def discoveries (crawler : DiscoveryCrawler) (crawl : Crawl) :
    Except CrawlFailure (List DiscoveredPublication) := do
  -- The probes do not depend on the registry.
  let gathered ← gather crawler crawl {} crawl.modelIds
  gathered.refs.mapM (probe crawler crawl)

/-- The registry after some discovered publications are upserted. -/
def upsertAll (gathered : GatheredRefs) (now : Nat) (registry : Registry)
    (pubs : List DiscoveredPublication) : Registry :=
  -- The publications are upserted in the order in which they were found.
  pubs.foldl (fun registry pub => (registry.upsert pub (gathered.referencedBy pub.pubId) now).1)
    registry

/-- What a probe finds carries the id and the type of the reference. -/
theorem probe_spec {ref : PublicationRef} {pub : DiscoveredPublication}
    (probed : probe crawler crawl ref = .ok pub) :
    pub.pubId = ref.pubId ∧ pub.pubType = ref.pubType := by
  -- Every other outcome of the probe is an error.
  obtain ⟨html, _, probed⟩ := bind_eq_ok.mp probed
  obtain ⟨raw, data, _, rfl⟩ := buildPublication_eq_ok (mapError_eq_ok.mp probed)
  exact ⟨rfl, rfl⟩

/-- The loop probes all publications and upserts what it finds. -/
theorem upsertRefs_eq_ok
    (done : upsertRefs crawler crawl gathered registry upserted refs = .ok (next, total)) :
    ∃ pubs, refs.mapM (probe crawler crawl) = .ok pubs ∧
      next = upsertAll gathered crawl.now registry pubs ∧ total = upserted + refs.length := by
  induction refs generalizing registry upserted with
  | nil =>
    cases done
    exact ⟨[], rfl, rfl, rfl⟩
  | cons ref rest ih =>
    obtain ⟨pub, probed, done⟩ := bind_eq_ok.mp done
    obtain ⟨pubs, mapped, rfl, rfl⟩ := ih done
    refine ⟨pub :: pubs, ?_, ?_, ?_⟩
    · rw [List.mapM_cons, probed]
      exact bind_eq_ok.mpr ⟨pub, rfl, bind_eq_ok.mpr ⟨pubs, mapped, rfl⟩⟩
    · -- The mentions are looked up under the id that the probe keeps.
      change upsertAll gathered crawl.now
        (registry.upsert pub (gathered.referencedBy ref.pubId) crawl.now).1 pubs = _
      rw [← (probe_spec probed).1]
      rfl
    · rw [List.length_cons]
      omega

/-- When every probe succeeds the loop does. -/
theorem upsertRefs_of_probed {pubs : List DiscoveredPublication}
    (probed : refs.mapM (probe crawler crawl) = .ok pubs) (gathered : GatheredRefs)
    (registry : Registry) (upserted : Nat) :
    ∃ result, upsertRefs crawler crawl gathered registry upserted refs = .ok result := by
  -- When every probe succeeds, nothing else can fail.
  induction refs generalizing registry upserted pubs with
  | nil => exact ⟨_, rfl⟩
  | cons ref rest ih =>
    rw [List.mapM_cons] at probed
    obtain ⟨pub, head, probed⟩ := bind_eq_ok.mp probed
    obtain ⟨others, tail, _⟩ := bind_eq_ok.mp probed
    obtain ⟨result, done⟩ := ih tail
      (registry.upsert pub (gathered.referencedBy ref.pubId) crawl.now).1 (upserted + 1)
    exact ⟨result, bind_eq_ok.mpr ⟨pub, head, done⟩⟩

/-- A crawl that discovers something upserts all of it, and any other crawl changes nothing. -/
theorem crawled_eq :
    (∃ pubs gathered, crawler.discoveries crawl = .ok pubs ∧
        crawler.crawled registry crawl = upsertAll gathered crawl.now registry pubs) ∨
      (∃ failure, crawler.discoveries crawl = .error failure) ∧
        crawler.crawled registry crawl = registry := by
  cases gathering : gather crawler crawl {} crawl.modelIds with
  | error failure =>
    refine Or.inr ⟨⟨failure, ?_⟩, ?_⟩
    · simp [discoveries, gathering, bind, Except.bind]
    · simp [crawled, discoverSeed, gathering, bind, Except.bind]
  | ok gathered =>
    have same : crawler.discoveries crawl = gathered.refs.mapM (probe crawler crawl) := by
      simp [discoveries, gathering, bind, Except.bind]
    cases probed : gathered.refs.mapM (probe crawler crawl) with
    | error failure =>
      refine Or.inr ⟨⟨failure, same.trans probed⟩, ?_⟩
      -- A loop that succeeded would have probed everything.
      cases looped : upsertRefs crawler crawl gathered registry 0 gathered.refs with
      | error failure => simp [crawled, discoverSeed, gathering, looped, bind, Except.bind]
      | ok result =>
        obtain ⟨pubs, all, _⟩ := upsertRefs_eq_ok looped
        cases probed.symm.trans all
    | ok pubs =>
      refine Or.inl ⟨pubs, gathered, same.trans probed, ?_⟩
      obtain ⟨⟨next, total⟩, looped⟩ := upsertRefs_of_probed probed gathered registry 0
      obtain ⟨others, all, rfl, _⟩ := upsertRefs_eq_ok looped
      obtain rfl : pubs = others := Except.ok.inj (probed.symm.trans all)
      simp [crawled, discoverSeed, gathering, looped, bind, Except.bind, pure, Except.pure]

/-- A crawl discovers each publication once. -/
theorem discoveries_nodup {pubs : List DiscoveredPublication}
    (found : crawler.discoveries crawl = .ok pubs) :
    (pubs.map DiscoveredPublication.pubId).Nodup := by
  obtain ⟨gathered, gathering, probed⟩ := bind_eq_ok.mp found
  -- The probes keep the ids of the references.
  have ids : pubs.map DiscoveredPublication.pubId = gathered.refs.map PublicationRef.pubId :=
    keys_of_mapM_eq_ok probed fun _ _ done => (probe_spec done).1
  have start : (({} : GatheredRefs).refs.map PublicationRef.pubId).Nodup := List.nodup_nil
  rw [ids]
  exact gather_nodup start gathering

/-- A crawl discovers a publication with a type exactly when a model page links it with one. -/
theorem typed_discovery_iff {pubs : List DiscoveredPublication}
    (found : crawler.discoveries crawl = .ok pubs) :
    (∃ pub ∈ pubs, pub.pubId = pubId ∧ pub.pubType ≠ "") ↔
      LinkedTyped crawler crawl crawl.modelIds pubId := by
  obtain ⟨gathered, gathering, probed⟩ := bind_eq_ok.mp found
  -- The probes keep the ids and the types of the references.
  have keys : pubs.map (fun pub => (pub.pubId, pub.pubType)) =
      gathered.refs.map fun ref => (ref.pubId, ref.pubType) :=
    keys_of_mapM_eq_ok probed fun _ _ done =>
      Prod.ext (probe_spec done).1 (probe_spec done).2
  have linked : TypedIn pubId gathered.refs ↔ LinkedTyped crawler crawl crawl.modelIds pubId := by
    rw [typedIn_gather gathering]
    simp [TypedIn]
  rw [← linked]
  have members : ∀ key, key ∈ pubs.map (fun pub => (pub.pubId, pub.pubType)) ↔
      key ∈ gathered.refs.map fun ref => (ref.pubId, ref.pubType) := fun key => by rw [keys]
  simp only [List.mem_map] at members
  constructor
  · intro found
    obtain ⟨pub, member, named, typed⟩ := found
    obtain ⟨ref, refMember, same⟩ := (members _).mp ⟨pub, member, rfl⟩
    obtain ⟨sameId, sameType⟩ := Prod.mk.inj same
    exact ⟨ref, refMember, sameId.trans named, sameType ▸ typed⟩
  · intro gatheredRef
    obtain ⟨ref, member, named, typed⟩ := gatheredRef
    obtain ⟨pub, pubMember, same⟩ := (members _).mpr ⟨ref, member, rfl⟩
    obtain ⟨sameId, sameType⟩ := Prod.mk.inj same
    exact ⟨pub, pubMember, sameId.trans named, sameType ▸ typed⟩

variable {now : Nat} {pubs : List DiscoveredPublication}

/-- Upserts leave the rows of the publications that are not among them. -/
theorem getRow_upsertAll_of_not_mem (absent : pubId ∉ pubs.map DiscoveredPublication.pubId) :
    (upsertAll gathered now registry pubs).getRow pubId = registry.getRow pubId := by
  -- Each upsert is about another publication.
  induction pubs generalizing registry with
  | nil => rfl
  | cons pub rest ih =>
    rw [List.map_cons, List.mem_cons, not_or] at absent
    obtain ⟨other, others⟩ := absent
    rw [upsertAll, List.foldl_cons]
    exact (ih others).trans (Registry.getRow_upsert_ne _ _ (Ne.symm other))

/-- Upserts of different publications act on each row once. -/
theorem getRow_upsertAll_of_mem (distinct : (pubs.map DiscoveredPublication.pubId).Nodup)
    {pub : DiscoveredPublication} (member : pub ∈ pubs) :
    (upsertAll gathered now registry pubs).getRow pub.pubId =
      some ((registry.getRow pub.pubId).elim
        (Registry.firstSeen pub (gathered.referencedBy pub.pubId) now)
        (Registry.seen pub (gathered.referencedBy pub.pubId) now)) := by
  induction pubs generalizing registry with
  | nil => cases member
  | cons first rest ih =>
    obtain ⟨fresh, distinct⟩ := List.nodup_cons.mp distinct
    rw [upsertAll, List.foldl_cons]
    rcases List.mem_cons.mp member with rfl | inRest
    · -- The row of the first publication is not touched again.
      exact (getRow_upsertAll_of_not_mem fresh).trans (Registry.getRow_upsert _ _ _)
    · have other : first.pubId ≠ pub.pubId := fun same =>
        fresh (same ▸ List.mem_map_of_mem inRest)
      refine (ih distinct inRest).trans ?_
      rw [Registry.getRow_upsert_ne _ _ other]

end Laws

end DiscoveryCrawler

end TorqueFinder
