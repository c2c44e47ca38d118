import Mathlib.Data.List.Sort
import Mathlib.Data.String.Basic
import TorqueFinder.Discovery.PublicationProbe
import TorqueFinder.Lib.Table

/-! The registry of discovered publications. -/

namespace TorqueFinder

/-- The lifecycle of a publication between discovery and ingestion. -/
inductive PublicationStatus where
  /-- Seen, and never ingested. -/
  | discovered
  /-- Changed since it was last looked at. -/
  | stale
  /-- Indexed. -/
  | ingested
  deriving DecidableEq

/-- A registry row, which is also what the registry hands out. -/
structure RegisteredPublication where
  pubId : String
  pubType : String
  title : String
  locale : String
  sourceUrl : String
  series : List String
  models : List String
  procedures : List String
  referencedByModels : List String
  contentHash : String
  status : PublicationStatus
  /-- The second the row was inserted at. -/
  discoveredAt : Nat
  /-- The second of the latest upsert. -/
  lastSeenAt : Nat
  deriving DecidableEq

/-- What an upsert did. -/
inductive UpsertOutcome where
  | inserted
  | unchanged
  | stale
  deriving DecidableEq

/-- The publications table, its rows in the order of their ids. -/
structure Registry where
  rows : List RegisteredPublication := []
  pubIds_nodup : (rows.map RegisteredPublication.pubId).Nodup := by simp

/-- A registry without rows. -/
def Registry.empty : Registry where
  rows := []
  pubIds_nodup := List.nodup_nil

/-- `sorted(set(texts))`. -/
def sortedSet (texts : List String) : List String :=
  texts.dedup.insertionSort (· ≤ ·)

namespace Registry

/-- The row of a publication. -/
def getRow (registry : Registry) (pubId : String) : Option RegisteredPublication :=
  registry.rows.find? fun row => row.pubId = pubId

/-- Change the row of one publication, which keeps its id. -/
def updateRow (registry : Registry) (pubId : String)
    (update : RegisteredPublication → RegisteredPublication)
    (keepsId : ∀ row, (update row).pubId = row.pubId) : Registry where
  rows := registry.rows.map fun row => if row.pubId = pubId then update row else row
  pubIds_nodup := by
    -- The update keeps ids, so they stay distinct.
    have same : ∀ row : RegisteredPublication,
        (if row.pubId = pubId then update row else row).pubId = row.pubId := fun row => by
      split <;> simp [keepsId]
    simpa [Function.comp_def, same] using registry.pubIds_nodup

/-- Record that a publication was seen, and what changed when its content did. -/
def seen (pub : DiscoveredPublication) (referencedByModels : List String) (now : Nat)
    (row : RegisteredPublication) : RegisteredPublication :=
  -- Every sighting is recorded, whether or not the content changed.
  let touched := { row with
    lastSeenAt := now
    referencedByModels := sortedSet (row.referencedByModels ++ referencedByModels) }
  if row.contentHash ≠ pub.contentHash then
    -- A changed hash takes over the metadata and marks the row for another ingestion.
    { touched with
      contentHash := pub.contentHash
      title := pub.title
      sourceUrl := pub.sourceUrl
      locale := pub.locale
      pubType := pub.pubType
      series := pub.series
      models := pub.models
      procedures := pub.procedures
      status := .stale }
  else touched

/-- Seeing a publication keeps its id. -/
theorem seen_pubId (pub : DiscoveredPublication) (referencedByModels : List String) (now : Nat)
    (row : RegisteredPublication) : (seen pub referencedByModels now row).pubId = row.pubId := by
  -- Neither branch writes the id.
  unfold seen
  split <;> rfl

/-- Whether or not its content changed, a sighting adds the models and takes down the time. -/
theorem seen_touched (pub : DiscoveredPublication) (referencedByModels : List String) (now : Nat)
    (row : RegisteredPublication) :
    (seen pub referencedByModels now row).referencedByModels =
        sortedSet (row.referencedByModels ++ referencedByModels) ∧
      (seen pub referencedByModels now row).lastSeenAt = now ∧
        (seen pub referencedByModels now row).discoveredAt = row.discoveredAt := by
  -- The two branches differ in the status only.
  unfold seen
  split <;> exact ⟨rfl, rfl, rfl⟩

/-- The row of a publication seen for the first time. -/
def firstSeen (pub : DiscoveredPublication) (referencedByModels : List String) (now : Nat) :
    RegisteredPublication where
  pubId := pub.pubId
  pubType := pub.pubType
  title := pub.title
  locale := pub.locale
  sourceUrl := pub.sourceUrl
  series := pub.series
  models := pub.models
  procedures := pub.procedures
  referencedByModels := sortedSet referencedByModels
  contentHash := pub.contentHash
  status := .discovered
  discoveredAt := now
  lastSeenAt := now

/-- Insert or update a publication. -/
def upsert (registry : Registry) (pub : DiscoveredPublication) (referencedByModels : List String)
    (now : Nat) : Registry × UpsertOutcome :=
  match found : registry.getRow pub.pubId with
  | none =>
    have fresh : ∀ old ∈ registry.rows, old.pubId ≠ pub.pubId := by
      simpa [getRow] using found
    ({ rows := registry.rows ++ [firstSeen pub referencedByModels now]
       pubIds_nodup := Table.nodup_concat registry.pubIds_nodup fresh }, .inserted)
  -- The row is compared with the new content before it is overwritten.
  | some row =>
    (registry.updateRow pub.pubId (seen pub referencedByModels now)
        (seen_pubId pub referencedByModels now),
      if row.contentHash ≠ pub.contentHash then .stale else .unchanged)

/-- The recorded publication with an id. -/
def get (registry : Registry) (pubId : String) : Option RegisteredPublication :=
  registry.getRow pubId

/-- Flip the lifecycle status of a publication. -/
def setStatus (registry : Registry) (pubId : String) (status : PublicationStatus) :
    Except DiscoveryError Registry :=
  match registry.getRow pubId with
  | none => .error ⟨"unknown publication: " ++ pubId⟩
  -- The flip looks neither at the present status nor at the hash.
  | some _ => .ok (registry.updateRow pubId (fun row => { row with status }) fun _ => rfl)

/-- All recorded publications in the order of their ids. -/
def listAll (registry : Registry) : List RegisteredPublication := registry.rows

variable {registry : Registry} {pubId : String} {row : RegisteredPublication}

/-- The row of a publication after its row was changed. -/
theorem getRow_updateRow {update : RegisteredPublication → RegisteredPublication}
    {keepsId : ∀ row, (update row).pubId = row.pubId} :
    (registry.updateRow pubId update keepsId).getRow pubId =
      (registry.getRow pubId).map update := by
  -- The update keeps every id, so the search stops at the same row.
  have same : ∀ row : RegisteredPublication,
      decide ((if row.pubId = pubId then update row else row).pubId = pubId) =
        decide (row.pubId = pubId) := fun row => by
    split <;> simp_all
  simp only [getRow, updateRow, List.find?_map, Function.comp_def, same]
  cases found : registry.rows.find? fun row => row.pubId = pubId with
  | none => rfl
  | some row =>
    have named : row.pubId = pubId := by simpa using List.find?_some found
    simp [named]

/-- A row update leaves the rows of other publications. -/
theorem getRow_updateRow_ne {other : String}
    {update : RegisteredPublication → RegisteredPublication}
    (keepsId : ∀ row, (update row).pubId = row.pubId) (different : other ≠ pubId) :
    (registry.updateRow other update keepsId).getRow pubId = registry.getRow pubId := by
  -- The updated row keeps its id, which is not the one that is looked for.
  have same : ∀ row : RegisteredPublication,
      decide ((if row.pubId = other then update row else row).pubId = pubId) =
        decide (row.pubId = pubId) := fun row => by
    split <;> simp [keepsId]
  simp only [getRow, updateRow, List.find?_map, Function.comp_def, same]
  cases found : registry.rows.find? fun row => row.pubId = pubId with
  | none => rfl
  | some row =>
    have named : row.pubId = pubId := by simpa using List.find?_some found
    simp [named, different.symm]

/-- After an upsert the row is that of a first sighting, or the old row seen again. -/
theorem getRow_upsert (pub : DiscoveredPublication) (referencedByModels : List String) (now : Nat) :
    (registry.upsert pub referencedByModels now).1.getRow pub.pubId =
      some ((registry.getRow pub.pubId).elim (firstSeen pub referencedByModels now)
        (seen pub referencedByModels now)) := by
  -- A missing publication is appended, a known one is seen again in place.
  unfold upsert
  split
  · rename_i missing
    have others : registry.rows.find? (fun row => row.pubId = pub.pubId) = none := missing
    simp [getRow, List.find?_append, others, firstSeen]
  · rename_i row found
    rw [getRow_updateRow, found]
    rfl

/-- An upsert leaves the rows of other publications. -/
theorem getRow_upsert_ne {pub : DiscoveredPublication} (referencedByModels : List String)
    (now : Nat)
    (different : pub.pubId ≠ pubId) :
    (registry.upsert pub referencedByModels now).1.getRow pubId = registry.getRow pubId := by
  -- The appended or updated row belongs to the upserted publication.
  unfold upsert
  split
  · simp [getRow, List.find?_append, firstSeen, different]
  · exact getRow_updateRow_ne (seen_pubId pub referencedByModels now) different

/-- Seeing a publication records the hash it was seen with. -/
theorem seen_contentHash (pub : DiscoveredPublication) (referencedByModels : List String)
    (now : Nat) (row : RegisteredPublication) :
    (seen pub referencedByModels now row).contentHash = pub.contentHash := by
  -- A hash that did not change is the recorded one already.
  unfold seen
  split
  · rfl
  · rename_i same
    exact not_not.mp same

/-- A publication that counts as ingested after it was seen has not changed its hash. -/
theorem seen_ingested {pub : DiscoveredPublication} {referencedByModels : List String} {now : Nat}
    (ingested : (seen pub referencedByModels now row).status = .ingested) :
    row.status = .ingested ∧ row.contentHash = pub.contentHash := by
  -- A changed hash would have marked the row stale.
  unfold seen at ingested
  split at ingested
  · cases ingested
  · rename_i same
    exact ⟨ingested, not_not.mp same⟩

/-- A status flip leaves the row with that status and everything else as it was. -/
theorem getRow_setStatus {status : PublicationStatus} {flipped : Registry}
    (done : registry.setStatus pubId status = .ok flipped) :
    ∃ row, registry.getRow pubId = some row ∧
      flipped.getRow pubId = some { row with status } := by
  -- An unknown publication is an error, so the row was there.
  unfold setStatus at done
  split at done
  · cases done
  · rename_i row found
    cases done
    exact ⟨row, found, by rw [getRow_updateRow, found]; rfl⟩

end Registry

end TorqueFinder
