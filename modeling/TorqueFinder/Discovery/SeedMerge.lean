import TorqueFinder.Discovery.Crawler
import TorqueFinder.Discovery.LinkSplit
import TorqueFinder.Discovery.RegistryHistory
import TorqueFinder.Discovery.TypeMemory
import TorqueFinder.Lib.Dict
import TorqueFinder.Lib.Preference

/-! The upserts of a crawl, against one pass over all links of its pages. -/

namespace TorqueFinder

open ExceptFlow Preference

/-- A reference has a type. -/
def PublicationRef.Typed (ref : PublicationRef) : Prop := ref.pubType ≠ ""

/-- Types are compared with the empty text. -/
instance : DecidablePred PublicationRef.Typed := fun _ => inferInstanceAs (Decidable (_ ≠ _))

/-- What the loop over the links of a page carries along. -/
structure PageRefs where
  order : List String
  found : Dict String PublicationRef

/-- Note a link of a page. -/
def PageRefs.note (page : PageRefs) (ref : PublicationRef) : PageRefs :=
  match page.found.get? ref.pubId with
  | none => { order := page.order ++ [ref.pubId], found := page.found.set ref.pubId ref }
  | some known =>
    -- Upgrade a bare ref to a typed one.
    if ref.pubType ≠ "" ∧ known.pubType = "" then
      { page with found := page.found.set ref.pubId ref }
    else page

/-- The references of a page, looked up in the order of their publications. -/
def pageRefs (html : String) : List PublicationRef :=
  -- The dictionary has the references, and the list their order.
  let page := (publicationLinks html).foldl PageRefs.note { order := [], found := .empty }
  page.order.filterMap page.found.get?

/-- What the loop over the models carries along. -/
structure SeedRefs where
  refs : Dict String PublicationRef
  /-- The set of models that refer to a publication. -/
  referencedBy : Dict String (List String)

/-- Take in a reference from the page of a model. -/
def SeedRefs.add (modelId : String) (seed : SeedRefs) (ref : PublicationRef) : SeedRefs :=
  let refs := seed.refs.setdefault ref.pubId ref
  let models := seed.referencedBy.setdefault ref.pubId []
  { refs :=
      match refs.get? ref.pubId with
      | none => refs
      | some known =>
        -- Prefer a typed ref if a later page provides one.
        if ref.pubType ≠ "" ∧ known.pubType = "" then refs.set ref.pubId ref else refs
    referencedBy :=
      models.set ref.pubId (((models.get? ref.pubId).getD []).insert modelId) }

/-- One upsert, with the reference its publication was probed with. -/
structure UpsertCall where
  ref : PublicationRef
  pub : DiscoveredPublication
  models : List String
  deriving DecidableEq

/-- The registry after some upserts. -/
def applyCalls (now : Nat) (registry : Registry) (calls : List UpsertCall) : Registry :=
  calls.foldl (fun registry call => (registry.upsert call.pub call.models now).1) registry

namespace DiscoveryCrawler

/-- Take in the references of the model pages, page by page. -/
def seedRefs (crawler : DiscoveryCrawler) (crawl : Crawl) :
    SeedRefs → List String → Except CrawlFailure SeedRefs
  | seed, [] => .ok seed
  | seed, modelId :: rest => do
    -- A model page that cannot be fetched ends the crawl.
    let html ← get crawl (crawler.modelUrl modelId)
    seedRefs crawler crawl ((parsePublicationRefs html).foldl (SeedRefs.add modelId) seed) rest

/-- Probe the publications one after the other, and pass each to an upsert. -/
def seedUpserts (crawler : DiscoveryCrawler) (crawl : Crawl) (seed : SeedRefs) :
    List (String × PublicationRef) → Except CrawlFailure (List UpsertCall)
  | [] => .ok []
  | (pubId, ref) :: rest => do
    -- The first probe that fails ends the crawl.
    let pub ← probe crawler crawl ref
    let later ← seedUpserts crawler crawl seed rest
    return { ref, pub, models := sortedSet ((seed.referencedBy.get? pubId).getD []) } :: later

/-- The upserts of a crawl. -/
def seedCalls (crawler : DiscoveryCrawler) (crawl : Crawl) :
    Except CrawlFailure (List UpsertCall) := do
  -- The dictionary lists the publications in the order of their first link.
  let seed ← seedRefs crawler crawl { refs := .empty, referencedBy := .empty } crawl.modelIds
  seedUpserts crawler crawl seed seed.refs.entries

end DiscoveryCrawler

/-- All links of the pages of some models, page by page. -/
def pageLinks (page : String → String) (modelIds : List String) : List PublicationRef :=
  modelIds.flatMap fun modelId => publicationLinks (page modelId)

/-- The upserts are those of one pass over all links of the pages. -/
structure MergesLinks (crawler : DiscoveryCrawler) (crawl : Crawl) (page : String → String)
    (calls : List UpsertCall) : Prop where
  /-- Each publication is upserted once, in the order the publications first appear. -/
  once : calls.map (fun call => call.pub.pubId) =
    ((pageLinks page crawl.modelIds).map PublicationRef.pubId).eraseDups
  probed : ∀ call ∈ calls, DiscoveryCrawler.probe crawler crawl call.ref = .ok call.pub
  /-- The reference is the first typed link of the publication, or its first link. -/
  preferred : ∀ call ∈ calls, choice PublicationRef.pubId PublicationRef.Typed
    (pageLinks page crawl.modelIds) call.pub.pubId = some call.ref
  joined : ∀ separator, Unspannable separator → calls.map UpsertCall.ref =
    parsePublicationRefs (separator.intercalate (crawl.modelIds.map page))
  sorted : ∀ call ∈ calls, call.models.Pairwise (· < ·)
  linking : ∀ call ∈ calls, ∀ modelId, modelId ∈ call.models ↔
    modelId ∈ crawl.modelIds ∧
      call.pub.pubId ∈ (publicationLinks (page modelId)).map PublicationRef.pubId

/-- Every reference that one pass over the links of the pages keeps can be probed. -/
def ProbesSucceed (crawler : DiscoveryCrawler) (crawl : Crawl) (page : String → String) : Prop :=
  -- The references that are probed are the ones that win.
  ∀ pubId ref, choice PublicationRef.pubId PublicationRef.Typed
    (pageLinks page crawl.modelIds) pubId = some ref →
      ∃ pub, DiscoveryCrawler.probe crawler crawl ref = .ok pub

/-- The same publications are upserted with the same models, and with a type in both or neither. -/
structure SamePublications (calls others : List UpsertCall) : Prop where
  publications : ∀ pubId, pubId ∈ calls.map (fun call => call.pub.pubId) ↔
    pubId ∈ others.map fun call => call.pub.pubId
  models : ∀ call ∈ calls, ∀ other ∈ others, call.pub.pubId = other.pub.pubId →
    call.models = other.models
  typed : ∀ call ∈ calls, ∀ other ∈ others, call.pub.pubId = other.pub.pubId →
    (call.ref.Typed ↔ other.ref.Typed)

/-- A dictionary lists some references under their publications. -/
def ListsRefs (dict : Dict String PublicationRef) (refs : List PublicationRef) : Prop :=
  dict.entries = refs.map fun ref => (ref.pubId, ref)

section Dictionaries

variable {dict : Dict String PublicationRef} {refs : List PublicationRef}
  {ref known : PublicationRef} {pubId : String}

/-- Noting a link prefers typed references. -/
theorem noteRef_eq : noteRef = note PublicationRef.pubId PublicationRef.Typed := by
  funext refs ref
  simp [noteRef, note, PublicationRef.Typed]

/-- The keys of listed references are their publications. -/
theorem ListsRefs.keys (lists : ListsRefs dict refs) :
    dict.keys = refs.map PublicationRef.pubId := by
  -- Each entry has the id of its reference as key.
  rw [Dict.keys, lists, List.map_map]
  rfl

/-- A listed reference is looked up under its publication. -/
theorem ListsRefs.get?_eq_some (lists : ListsRefs dict refs) :
    dict.get? pubId = some ref ↔ ref ∈ refs ∧ ref.pubId = pubId := by
  -- The keys are the ids, so an entry is found by the id of its reference.
  rw [Dict.get?_eq_some, lists, List.mem_map]
  constructor
  · intro entry
    obtain ⟨other, member, same⟩ := entry
    obtain ⟨named, rfl⟩ := Prod.mk.inj same
    exact ⟨member, named⟩
  · intro listed
    obtain ⟨member, rfl⟩ := listed
    exact ⟨ref, member, rfl⟩

/-- A reference to a new publication is noted by setting its key. -/
theorem ListsRefs.set_of_none (lists : ListsRefs dict refs) (missing : dict.get? ref.pubId = none) :
    ListsRefs (dict.set ref.pubId ref) (noteRef refs ref) := by
  -- The new publication comes last on both sides.
  have fresh := Dict.get?_eq_none.mp missing
  have unknown : ref.pubId ∉ refs.map PublicationRef.pubId := lists.keys ▸ fresh
  rw [ListsRefs, Dict.entries_set_of_not_mem fresh, lists, noteRef, if_neg unknown, List.map_append]
  rfl

/-- A reference to a known publication is noted by setting its key when only it has a type. -/
theorem ListsRefs.upgrade (lists : ListsRefs dict refs)
    (found : dict.get? ref.pubId = some known) :
    ListsRefs (if ref.pubType ≠ "" ∧ known.pubType = "" then dict.set ref.pubId ref else dict)
      (noteRef refs ref) := by
  have key : ref.pubId ∈ dict.keys := Dict.mem_keys found
  have listed : ref.pubId ∈ refs.map PublicationRef.pubId := lists.keys ▸ key
  -- The publication has one reference, which is the known one.
  have only : ∀ old ∈ refs, old.pubId = ref.pubId → old = known := by
    intro old present named
    exact Option.some.inj ((lists.get?_eq_some.mpr ⟨present, named⟩).symm.trans found)
  rw [ListsRefs, noteRef, if_pos listed, List.map_map]
  split
  · rename_i upgrades
    rw [Dict.entries_set_of_mem key, lists, List.map_map]
    refine List.map_congr_left fun old present => ?_
    by_cases named : old.pubId = ref.pubId
    · have bare : old.pubType = "" := only old present named ▸ upgrades.2
      simp [named, upgrades.1, bare]
    · simp [named]
  · rename_i stays
    rw [lists]
    refine List.map_congr_left fun old present => ?_
    have keeps : ¬ (old.pubId = ref.pubId ∧ ref.pubType ≠ "" ∧ old.pubType = "") := by
      intro replaced
      exact stays ⟨replaced.2.1, only old present replaced.1 ▸ replaced.2.2⟩
    rw [Function.comp_apply, if_neg keeps]

/-- The loop over the links of a page notes them, and orders the publications as they appear. -/
theorem PageRefs.note_lists {page : PageRefs} (lists : ListsRefs page.found refs)
    (ordered : page.order = page.found.keys) (ref : PublicationRef) :
    ListsRefs (page.note ref).found (noteRef refs ref) ∧
      (page.note ref).order = (page.note ref).found.keys := by
  -- A new publication is added to the order, and an upgrade leaves the order alone.
  unfold PageRefs.note
  split
  · rename_i missing
    refine ⟨lists.set_of_none missing, ?_⟩
    rw [Dict.keys_set_of_not_mem (Dict.get?_eq_none.mp missing), ordered]
  · rename_i known found
    have upgraded := lists.upgrade found
    split at upgraded
    · rename_i upgrades
      rw [if_pos upgrades]
      exact ⟨upgraded, by rw [Dict.keys_set_of_mem (Dict.mem_keys found), ordered]⟩
    · rename_i stays
      rw [if_neg stays]
      exact ⟨upgraded, ordered⟩

/-- The links of a page are noted one after the other. -/
theorem PageRefs.foldl_lists {page : PageRefs} (lists : ListsRefs page.found refs)
    (ordered : page.order = page.found.keys) (links : List PublicationRef) :
    ListsRefs (links.foldl PageRefs.note page).found (links.foldl noteRef refs) ∧
      (links.foldl PageRefs.note page).order = (links.foldl PageRefs.note page).found.keys := by
  -- Each link is noted in the dictionary as it is in the list.
  induction links generalizing page refs with
  | nil => exact ⟨lists, ordered⟩
  | cons link rest ih =>
    obtain ⟨noted, still⟩ := PageRefs.note_lists lists ordered link
    exact ih noted still

/-- The dictionary of a page gives the references of the page. -/
theorem pageRefs_eq (html : String) : pageRefs html = parsePublicationRefs html := by
  let begun : PageRefs := { order := [], found := .empty }
  have start : ListsRefs begun.found [] := rfl
  obtain ⟨lists, ordered⟩ := PageRefs.foldl_lists start rfl (publicationLinks html)
  -- Every publication in the order has its reference in the dictionary.
  rw [pageRefs, ordered, lists.keys, List.filterMap_map]
  refine (List.filterMap_congr fun ref member => ?_).trans List.filterMap_some
  exact lists.get?_eq_some.mpr ⟨member, rfl⟩

end Dictionaries

/-- The dictionaries of the crawl hold what was gathered. -/
structure SeedRefs.Holds (seed : SeedRefs) (gathered : GatheredRefs) : Prop where
  refs : ListsRefs seed.refs gathered.refs
  mentions : ∀ pubId modelId, modelId ∈ (seed.referencedBy.get? pubId).getD [] ↔
    (pubId, modelId) ∈ gathered.mentions

section Gathering

variable {seed : SeedRefs} {gathered : GatheredRefs} {crawler : DiscoveryCrawler} {crawl : Crawl}
  {modelId pubId : String}

/-- Setting the default reference of a publication and upgrading it notes the reference. -/
theorem SeedRefs.add_refs (lists : ListsRefs seed.refs gathered.refs) (modelId : String)
    (ref : PublicationRef) :
    ListsRefs (seed.add modelId ref).refs (noteRef gathered.refs ref) := by
  have known := Dict.get?_setdefault seed.refs ref.pubId ref
  unfold SeedRefs.add
  dsimp only
  rw [known]
  dsimp only
  cases found : seed.refs.get? ref.pubId with
  | none =>
    -- A new publication has the reference itself, which needs no upgrade.
    have fresh := Dict.get?_eq_none.mp found
    rw [Option.getD_none, if_neg fun upgrades => upgrades.1 upgrades.2, Dict.setdefault,
      if_neg fresh]
    exact lists.set_of_none found
  | some old =>
    -- A known publication keeps its reference until one with a type comes.
    rw [Option.getD_some, Dict.setdefault, if_pos (Dict.mem_keys found)]
    exact lists.upgrade found

/-- The model is added to the set of its publication, and to no other. -/
theorem SeedRefs.mem_add {ref : PublicationRef} {other : String} :
    other ∈ ((seed.add modelId ref).referencedBy.get? pubId).getD [] ↔
      other ∈ (seed.referencedBy.get? pubId).getD [] ∨ ref.pubId = pubId ∧ other = modelId := by
  -- The publication now has an entry, which no other publication shares.
  unfold SeedRefs.add
  dsimp only
  by_cases same : pubId = ref.pubId
  · subst same
    rw [Dict.get?_set, Dict.get?_setdefault, Option.getD_some, Option.getD_some,
      List.mem_insert_iff]
    simp [or_comm]
  · rw [Dict.get?_set_ne same, Dict.get?_setdefault_ne same]
    simp [Ne.symm same]

/-- Taking in a reference notes it, and mentions the model. -/
theorem SeedRefs.Holds.add (holds : seed.Holds gathered) (modelId : String)
    (ref : PublicationRef) :
    (seed.add modelId ref).Holds
      { refs := noteRef gathered.refs ref
        mentions := gathered.mentions ++ [(ref.pubId, modelId)] } := by
  -- The reference and its mention are added on both sides.
  constructor
  · exact SeedRefs.add_refs holds.refs modelId ref
  · intro pubId other
    rw [SeedRefs.mem_add, holds.mentions]
    simp [eq_comm]

/-- Taking in the references of a page notes them, and mentions the model with each. -/
theorem SeedRefs.Holds.foldl_add (holds : seed.Holds gathered) (modelId : String)
    (found : List PublicationRef) :
    (found.foldl (SeedRefs.add modelId) seed).Holds
      { refs := found.foldl noteRef gathered.refs
        mentions := gathered.mentions ++ found.map fun ref => (ref.pubId, modelId) } := by
  -- The references of the page are added one after the other.
  induction found generalizing seed gathered with
  | nil => simpa using holds
  | cons ref rest ih => simpa using ih (holds.add modelId ref)

namespace DiscoveryCrawler

/-- The loop over the model pages fails as gathering does, or holds what is gathered. -/
theorem seedRefs_cases (holds : seed.Holds gathered) (modelIds : List String) :
    (∃ failure, seedRefs crawler crawl seed modelIds = .error failure ∧
      gather crawler crawl gathered modelIds = .error failure) ∨
    (∃ final collected, seedRefs crawler crawl seed modelIds = .ok final ∧
      gather crawler crawl gathered modelIds = .ok collected ∧ final.Holds collected) := by
  -- Both loops fetch the same pages, so they fail on the same one.
  induction modelIds generalizing seed gathered with
  | nil => exact .inr ⟨seed, gathered, rfl, rfl, holds⟩
  | cons modelId rest ih =>
    rw [seedRefs, gather]
    cases get crawl (crawler.modelUrl modelId) with
    | error failure => exact .inl ⟨failure, rfl, rfl⟩
    | ok html => exact ih (holds.foldl_add modelId (parsePublicationRefs html))

/-- The models that are passed are those that mention the publication. -/
theorem models_eq (holds : seed.Holds gathered) (pubId : String) :
    sortedSet ((seed.referencedBy.get? pubId).getD []) = gathered.referencedBy pubId := by
  -- The set of mentions is sorted on both sides.
  refine sortedSet_congr fun modelId => ?_
  rw [holds.mentions]
  simp [eq_comm]

/-- The loop over the publications applies the upserts one after the other. -/
theorem upsertRefs_eq (holds : seed.Holds gathered) (refs : List PublicationRef)
    (registry : Registry) (upserted : Nat) :
    upsertRefs crawler crawl gathered registry upserted refs =
      (seedUpserts crawler crawl seed (refs.map fun ref => (ref.pubId, ref))).map fun calls =>
        (applyCalls crawl.now registry calls, upserted + calls.length) := by
  -- A probe that fails ends both loops.
  induction refs generalizing registry upserted with
  | nil => rfl
  | cons ref rest ih =>
    rw [upsertRefs, List.map_cons, seedUpserts]
    cases probe crawler crawl ref with
    | error failure => rfl
    | ok pub =>
      have later := ih (registry.upsert pub (gathered.referencedBy ref.pubId) crawl.now).1
        (upserted + 1)
      rw [ok_bind, ok_bind, models_eq holds]
      refine Eq.trans later ?_
      cases seedUpserts crawler crawl seed (rest.map fun ref => (ref.pubId, ref)) with
      | error failure => rfl
      | ok calls =>
        have counted : upserted + 1 + calls.length = upserted + (calls.length + 1) := by omega
        simp [Except.map, applyCalls, pure, Except.pure, counted]

/-- The upserts are for the references in their order, each with its probe and its models. -/
theorem seedUpserts_eq_ok {refs : List PublicationRef} {calls : List UpsertCall}
    (done : seedUpserts crawler crawl seed (refs.map fun ref => (ref.pubId, ref)) = .ok calls) :
    calls.map UpsertCall.ref = refs ∧ ∀ call ∈ calls,
      probe crawler crawl call.ref = .ok call.pub ∧
        call.models = sortedSet ((seed.referencedBy.get? call.ref.pubId).getD []) := by
  -- Each reference is probed before the upserts of the later ones.
  induction refs generalizing calls with
  | nil =>
    cases done
    exact ⟨rfl, by simp⟩
  | cons ref rest ih =>
    obtain ⟨pub, probed, done⟩ := bind_eq_ok.mp done
    obtain ⟨later, others, done⟩ := bind_eq_ok.mp done
    cases done
    obtain ⟨same, each⟩ := ih others
    exact ⟨by rw [List.map_cons, same], List.forall_mem_cons.mpr ⟨⟨probed, rfl⟩, each⟩⟩

/-- When every probe succeeds there are upserts for all references. -/
theorem seedUpserts_of_probed {refs : List PublicationRef}
    (probed : ∀ ref ∈ refs, ∃ pub, probe crawler crawl ref = .ok pub) (seed : SeedRefs) :
    ∃ calls, seedUpserts crawler crawl seed (refs.map fun ref => (ref.pubId, ref)) =
      .ok calls := by
  -- Nothing but a probe can fail.
  induction refs with
  | nil => exact ⟨[], rfl⟩
  | cons ref rest ih =>
    obtain ⟨pub, found⟩ := probed ref List.mem_cons_self
    obtain ⟨later, others⟩ := ih fun other member => probed other (List.mem_cons_of_mem _ member)
    exact ⟨_, bind_eq_ok.mpr ⟨pub, found, bind_eq_ok.mpr ⟨later, others, rfl⟩⟩⟩

/-- The upserts of a crawl are those of what it gathers, or neither succeeds. -/
theorem seedCalls_cases (crawler : DiscoveryCrawler) (crawl : Crawl) :
    (∃ failure, seedCalls crawler crawl = .error failure ∧
      gather crawler crawl {} crawl.modelIds = .error failure) ∨
    (∃ seed gathered, gather crawler crawl {} crawl.modelIds = .ok gathered ∧
      seed.Holds gathered ∧ seedCalls crawler crawl =
        seedUpserts crawler crawl seed (gathered.refs.map fun ref => (ref.pubId, ref))) := by
  -- The loop starts from empty dictionaries, which hold that nothing was gathered.
  have start : ({ refs := .empty, referencedBy := .empty } : SeedRefs).Holds {} :=
    ⟨rfl, fun pubId modelId => by simp [Dict.get?, Dict.empty]⟩
  rcases seedRefs_cases start crawl.modelIds with
    ⟨failure, looped, gathering⟩ | ⟨seed, gathered, looped, gathering, holds⟩
  · exact .inl ⟨failure, by rw [seedCalls, looped]; rfl, gathering⟩
  · have entries := holds.refs
    refine .inr ⟨seed, gathered, gathering, holds, ?_⟩
    rw [seedCalls, looped, ← entries]
    rfl

/-- A crawl applies its upserts to the registry one after the other, and counts them. -/
theorem discoverSeed_eq (crawler : DiscoveryCrawler) (crawl : Crawl) (registry : Registry) :
    crawler.discoverSeed crawl registry = (crawler.seedCalls crawl).map fun calls =>
      (applyCalls crawl.now registry calls,
        { modelsCrawled := crawl.modelIds.length
          publicationsFound := calls.length
          publicationsUpserted := calls.length }) := by
  -- Both count the references, each of which has one upsert.
  rcases seedCalls_cases crawler crawl with
    ⟨failure, failed, gathering⟩ | ⟨seed, gathered, gathering, holds, same⟩
  · rw [discoverSeed, gathering, failed]
    rfl
  · rw [discoverSeed, gathering, ok_bind, upsertRefs_eq holds, same]
    cases done : seedUpserts crawler crawl seed
        (gathered.refs.map fun ref => (ref.pubId, ref)) with
    | error failure => rfl
    | ok calls =>
      have counted : calls.length = gathered.refs.length := by
        rw [← (seedUpserts_eq_ok done).1, List.length_map]
      simp [Except.map, bind, Except.bind, pure, Except.pure, counted]

/-- With all pages fetched, the links are noted page by page, and each page mentions its model. -/
theorem gather_of_fetched {page : String → String} {modelIds : List String}
    (fetched : ∀ modelId ∈ modelIds, crawl.fetch (crawler.modelUrl modelId) = some (page modelId))
    (gathered : GatheredRefs) :
    gather crawler crawl gathered modelIds = .ok
      { refs := modelIds.foldl (fun noted modelId =>
          (parsePublicationRefs (page modelId)).foldl noteRef noted) gathered.refs
        mentions := gathered.mentions ++ modelIds.flatMap fun modelId =>
          (parsePublicationRefs (page modelId)).map fun ref => (ref.pubId, modelId) } := by
  -- Each page is noted behind the pages before it.
  induction modelIds generalizing gathered with
  | nil => simp [gather]
  | cons modelId rest ih =>
    have html : get crawl (crawler.modelUrl modelId) = .ok (page modelId) := by
      rw [get, fetched modelId List.mem_cons_self]
    rw [gather, html, ok_bind, ih fun other later => fetched other (List.mem_cons_of_mem _ later)]
    simp

end DiscoveryCrawler

end Gathering

/-- The references of a page are those of one pass over its links. -/
theorem parsePublicationRefs_eq (html : String) :
    parsePublicationRefs html =
      merge PublicationRef.pubId PublicationRef.Typed (publicationLinks html) := by
  -- Noting the links one by one merges them.
  rw [parsePublicationRefs, noteRef_eq, merge]

/-- A page gives a reference for every publication that it links to. -/
theorem mem_pubIds_parse {html pubId : String} :
    pubId ∈ (parsePublicationRefs html).map PublicationRef.pubId ↔
      pubId ∈ (publicationLinks html).map PublicationRef.pubId := by
  -- Merging keeps every id once.
  rw [parsePublicationRefs_eq, keys_merge, List.mem_eraseDups]

/-- A publication is mentioned with exactly the models whose page links to it. -/
theorem mem_mentions {page : String → String} {modelIds : List String} {pubId modelId : String} :
    (pubId, modelId) ∈ modelIds.flatMap (fun modelId =>
        (parsePublicationRefs (page modelId)).map fun ref => (ref.pubId, modelId)) ↔
      modelId ∈ modelIds ∧
        pubId ∈ (publicationLinks (page modelId)).map PublicationRef.pubId := by
  -- A mention comes from the page of its own model.
  rw [← mem_pubIds_parse]
  simp only [List.mem_flatMap, List.mem_map, Prod.mk.injEq]
  constructor
  · intro mentioned
    obtain ⟨_, given, ref, found, named, rfl⟩ := mentioned
    exact ⟨given, ref, found, named⟩
  · intro linked
    obtain ⟨given, ref, found, named⟩ := linked
    exact ⟨modelId, given, ref, found, named, rfl⟩

/-- Noting the references of pages one after the other is one pass over all their links. -/
theorem foldl_parse_eq (page : String → String) (modelIds : List String) :
    modelIds.foldl (fun noted modelId =>
        (parsePublicationRefs (page modelId)).foldl noteRef noted) [] =
      merge PublicationRef.pubId PublicationRef.Typed (pageLinks page modelIds) := by
  -- Each page may be merged before it is noted behind the others.
  have lists := foldl_merge PublicationRef.pubId PublicationRef.Typed
    (modelIds.map fun modelId => publicationLinks (page modelId))
  rw [List.foldl_map, ← List.flatMap_def] at lists
  simp only [parsePublicationRefs_eq, noteRef_eq]
  exact lists

section Merging

variable {crawler : DiscoveryCrawler} {crawl : Crawl} {page : String → String}
  {calls others : List UpsertCall}

/-- The upserts of a crawl that succeeds are those of one pass over all links of its pages. -/
theorem mergesLinks_of_seedCalls
    (fetched : ∀ modelId ∈ crawl.modelIds,
      crawl.fetch (crawler.modelUrl modelId) = some (page modelId))
    (done : crawler.seedCalls crawl = .ok calls) : MergesLinks crawler crawl page calls := by
  -- The upserts follow what was gathered, which is one pass over all links.
  rcases DiscoveryCrawler.seedCalls_cases crawler crawl with
    ⟨failure, failed, _⟩ | ⟨seed, gathered, gathering, holds, same⟩
  · cases failed.symm.trans done
  obtain ⟨refs, each⟩ := DiscoveryCrawler.seedUpserts_eq_ok (same.symm.trans done)
  have collected := gathering.symm.trans (DiscoveryCrawler.gather_of_fetched fetched {})
  obtain rfl := Except.ok.inj collected
  dsimp only at refs
  rw [foldl_parse_eq] at refs
  -- The probe keeps the id of its reference.
  have pubId : ∀ call ∈ calls, call.pub.pubId = call.ref.pubId := fun call member =>
    (DiscoveryCrawler.probe_spec (each call member).1).1
  -- The models of a call are the pages that mention it.
  have models : ∀ call ∈ calls, ∀ modelId, modelId ∈ call.models ↔
      modelId ∈ crawl.modelIds ∧
        call.pub.pubId ∈ (publicationLinks (page modelId)).map PublicationRef.pubId := by
    intro call member modelId
    rw [(each call member).2, mem_sortedSet, holds.mentions, pubId call member]
    exact mem_mentions
  have keys : (merge PublicationRef.pubId PublicationRef.Typed
      (pageLinks page crawl.modelIds)).map PublicationRef.pubId = _ := keys_merge _
  exact
    { once := by
        rw [← keys, ← refs, List.map_map]
        exact List.map_congr_left pubId
      probed := fun call member => (each call member).1
      preferred := by
        intro call member
        have kept : call.ref ∈ merge PublicationRef.pubId PublicationRef.Typed
            (pageLinks page crawl.modelIds) := refs ▸ List.mem_map_of_mem member
        rw [pubId call member]
        exact mem_merge.mp kept
      joined := by
        intro separator unspannable
        rw [refs, parsePublicationRefs_eq, publicationLinks_join unspannable, List.flatMap_map,
          pageLinks]
      sorted := by
        intro call member
        rw [(each call member).2]
        exact sortedSet_pairwise _
      linking := models }

/-- Upserts for the same models in another order are for the same publications. -/
theorem MergesLinks.samePublications {reordered : List String}
    (merges : MergesLinks crawler crawl page calls) (permuted : reordered.Perm crawl.modelIds)
    (alsoMerges : MergesLinks crawler { crawl with modelIds := reordered } page others) :
    SamePublications calls others := by
  have links : (pageLinks page reordered).Perm (pageLinks page crawl.modelIds) :=
    permuted.flatMap_right _
  constructor
  · intro pubId
    rw [merges.once, alsoMerges.once, List.mem_eraseDups, List.mem_eraseDups]
    exact (links.map _).mem_iff.symm
  · intro call member other otherMember same
    refine (merges.sorted call member).eq_of_mem_iff (alsoMerges.sorted other otherMember) ?_
    intro modelId
    rw [merges.linking call member, alsoMerges.linking other otherMember, same]
    exact and_congr_left fun _ => permuted.mem_iff.symm
  · intro call member other otherMember same
    -- A publication has a typed reference when one of its links has a type, in any order.
    rw [good_of_choice (merges.preferred call member),
      good_of_choice (alsoMerges.preferred other otherMember), same]
    constructor
    · intro typed
      obtain ⟨link, found, passed⟩ := typed
      exact ⟨link, links.mem_iff.mpr found, passed⟩
    · intro typed
      obtain ⟨link, found, passed⟩ := typed
      exact ⟨link, links.mem_iff.mp found, passed⟩

/-- With all pages fetched and all preferred links probed, there are upserts. -/
theorem exists_seedCalls
    (fetched : ∀ modelId ∈ crawl.modelIds,
      crawl.fetch (crawler.modelUrl modelId) = some (page modelId))
    (probed : ProbesSucceed crawler crawl page) : ∃ calls, crawler.seedCalls crawl = .ok calls := by
  -- What was gathered are the preferred links, which can be probed.
  rcases DiscoveryCrawler.seedCalls_cases crawler crawl with
    ⟨failure, _, gathering⟩ | ⟨seed, gathered, gathering, holds, same⟩
  · cases gathering.symm.trans (DiscoveryCrawler.gather_of_fetched fetched {})
  have collected := gathering.symm.trans (DiscoveryCrawler.gather_of_fetched fetched {})
  obtain rfl := Except.ok.inj collected
  rw [same]
  refine DiscoveryCrawler.seedUpserts_of_probed (fun ref member => ?_) seed
  dsimp only at member
  rw [foldl_parse_eq] at member
  exact probed ref.pubId ref (mem_merge.mp member)

end Merging

/-- A crawl upserts what one pass over the links of its pages finds, in any order of the models. -/
theorem discoverSeed_merges_links (crawler : DiscoveryCrawler) (crawl : Crawl)
    (registry : Registry) (page : String → String)
    (fetched : ∀ modelId ∈ crawl.modelIds,
      crawl.fetch (crawler.modelUrl modelId) = some (page modelId))
    (probed : ProbesSucceed crawler crawl page) :
    ∃ calls, crawler.seedCalls crawl = .ok calls ∧
      crawler.discoverSeed crawl registry = .ok (applyCalls crawl.now registry calls,
        { modelsCrawled := crawl.modelIds.length
          publicationsFound := calls.length
          publicationsUpserted := calls.length }) ∧
      MergesLinks crawler crawl page calls ∧
      ∀ reordered, reordered.Perm crawl.modelIds →
        ProbesSucceed crawler { crawl with modelIds := reordered } page →
          ∃ others, crawler.seedCalls { crawl with modelIds := reordered } = .ok others ∧
            SamePublications calls others := by
  obtain ⟨calls, done⟩ := exists_seedCalls fetched probed
  have merges := mergesLinks_of_seedCalls fetched done
  refine ⟨calls, done, ?_, merges, fun reordered permuted alsoProbed => ?_⟩
  · rw [DiscoveryCrawler.discoverSeed_eq, done]
    rfl
  · -- The pages of the reordered models are the same.
    have alsoFetched : ∀ modelId ∈ reordered,
        crawl.fetch (crawler.modelUrl modelId) = some (page modelId) := fun modelId member =>
      fetched modelId (permuted.mem_iff.mp member)
    obtain ⟨others, also⟩ := exists_seedCalls alsoFetched alsoProbed
    have alsoMerges := mergesLinks_of_seedCalls alsoFetched also
    exact ⟨others, also, merges.samePublications permuted alsoMerges⟩

/-- The pages of two models, of which the second has a type for the bare link of the first. -/
def forkPage (modelId : String) : String :=
  if modelId = "fs-fork" then
    -- The first page links the manual without its type.
    "https://docs.sram.com/en-US/publications/FORK1 " ++
      "https://docs.sram.com/en-US/publications/FORK2/UM"
  else "https://docs.sram.com/de-DE/publications/FORK1/SM"

/-- A crawl of these two pages. -/
def forkPagesCrawl : Crawl where
  modelIds := ["fs-fork", "fs-pike"]
  fetch url :=
    if url = "https://www.sram.com/en/service/models/fs-fork" then some (forkPage "fs-fork")
    else if url = "https://www.sram.com/en/service/models/fs-pike" then some (forkPage "fs-pike")
    -- Every publication has the same data.
    else some ("<script id=\"manual-data\">" ++ forkData ++ "</script>")
  now := 1

/-- The first publication is upserted with the typed link of the second page, for both models. -/
theorem discoverSeed_merges_links_fork :
    (forkCrawler.seedCalls forkPagesCrawl).map (fun calls =>
      calls.map fun call => (call.ref.pubId, call.ref.pubType, call.models)) =
        .ok [("FORK1", "SM", ["fs-fork", "fs-pike"]), ("FORK2", "UM", ["fs-fork"])] ∧
    ∃ calls, forkCrawler.seedCalls forkPagesCrawl = .ok calls ∧
      MergesLinks forkCrawler forkPagesCrawl forkPage calls ∧
        calls.map UpsertCall.ref =
          parsePublicationRefs ("\n".intercalate [forkPage "fs-fork", forkPage "fs-pike"]) := by
  -- Both pages link the first publication, and only the second one names its type.
  have fetched : ∀ modelId ∈ forkPagesCrawl.modelIds,
      forkPagesCrawl.fetch (forkCrawler.modelUrl modelId) = some (forkPage modelId) := by
    decide +kernel
  have probes : ∀ ref ∈ pageLinks forkPage forkPagesCrawl.modelIds,
      (DiscoveryCrawler.probe forkCrawler forkPagesCrawl ref).isOk = true := by
    decide +kernel
  have probed : ProbesSucceed forkCrawler forkPagesCrawl forkPage := by
    intro pubId ref chosen
    have succeeds := probes ref (of_choice chosen).1
    cases result : DiscoveryCrawler.probe forkCrawler forkPagesCrawl ref with
    | ok pub => exact ⟨pub, rfl⟩
    | error failure => simp [result, Except.isOk, Except.toBool] at succeeds
  obtain ⟨calls, done, _, merges, _⟩ :=
    discoverSeed_merges_links forkCrawler forkPagesCrawl .empty forkPage fetched probed
  have foreign : ∀ char ∈ "\n".toList, isLinkChar char = false := by
    intro char member
    obtain rfl : char = '\n' := by simpa using member
    decide
  have newline : Unspannable "\n" := unspannable_of_foreign (by simp) foreign
  refine ⟨?_, calls, done, merges, merges.joined "\n" newline⟩
  decide +kernel

end TorqueFinder
