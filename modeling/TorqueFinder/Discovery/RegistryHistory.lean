import Mathlib.Data.List.Dedup
import TorqueFinder.Discovery.Registry
import TorqueFinder.Lib.History
import TorqueFinder.Lib.Transaction

/-! What the rows of the registry are after any history of calls. -/

namespace TorqueFinder

open Transaction History

/-- A call of the registry, where an upsert knows the second it is made at. -/
inductive RegistryCall where
  | upsert (pub : DiscoveredPublication) (referencedByModels : List String) (now : Nat)
  | setStatus (pubId : String) (status : PublicationStatus)

/-- A flipped row keeps its id. -/
theorem pubId_withStatus (status : PublicationStatus) (row : RegisteredPublication) :
    { row with status }.pubId = row.pubId := rfl

/-- A status flip as the statements it executes one after the other. -/
def setStatusStatements (pubId : String) (status : PublicationStatus) :
    EStateM DiscoveryError Registry Unit := do
  match (← get).getRow pubId with
  -- The check comes before the assignment.
  | none => throw ⟨"unknown publication: " ++ pubId⟩
  | some _ =>
    modify fun registry =>
      registry.updateRow pubId (fun row => { row with status }) (pubId_withStatus status)

namespace RegistryCall

/-- What a call does to the registry, which it may leave half way with an error. -/
def statements : RegistryCall → EStateM DiscoveryError Registry Unit
  | .upsert pub referencedByModels now =>
    modify fun registry => (registry.upsert pub referencedByModels now).1
  -- Only the status flip can be refused.
  | .setStatus pubId status => setStatusStatements pubId status

/-- The registry a call leaves, whether or not it failed. -/
def perform (registry : Registry) (registryCall : RegistryCall) : Registry :=
  match registryCall.statements registry with
  | .ok _ next => next
  -- A refused call leaves what its statements left.
  | .error _ next => next

/-- An upsert of a publication. -/
def upserts (pubId : String) : List RegistryCall → RegistryCall → Bool
  | _, .upsert pub _ _ => decide (pub.pubId = pubId)
  | _, .setStatus _ _ => false

/-- The first upsert of a publication. -/
def inserts (pubId : String) (past : List RegistryCall) (registryCall : RegistryCall) : Bool :=
  upserts pubId past registryCall && (latest (upserts pubId) past).isNone

/-- The hash an upsert records. -/
def contentHash : RegistryCall → Option String
  | .upsert pub _ _ => some pub.contentHash
  | .setStatus _ _ => none

/-- An upsert of a publication that is its first one or differs in hash from the one before. -/
def changesContent (pubId : String) (past : List RegistryCall) (registryCall : RegistryCall) :
    Bool :=
  -- The first upsert of a publication changes nothing, since there is no previous hash.
  upserts pubId past registryCall &&
    (latest (upserts pubId) past).all fun previous =>
      decide (previous.contentHash ≠ registryCall.contentHash)

/-- A call that sets the status of a publication: a flip, or an upsert that changes the content. -/
def setsStatus (pubId : String) (past : List RegistryCall) : RegistryCall → Bool
  | .upsert pub referencedByModels now =>
    changesContent pubId past (.upsert pub referencedByModels now)
  -- A flip sets the status of the row it names.
  | .setStatus flipped _ => decide (flipped = pubId)

end RegistryCall

/-- The registry after a history of calls on an empty one. -/
def registryAfter (history : List RegistryCall) : Registry :=
  after RegistryCall.perform .empty history

/-- The models a history names for a publication. -/
def passedModels (pubId : String) (history : List RegistryCall) : List String :=
  history.flatMap fun registryCall =>
    match registryCall with
    -- Models count for the publication they were passed with.
    | .upsert pub referencedByModels _ => if pub.pubId = pubId then referencedByModels else []
    | .setStatus _ _ => []

/-- The row carries the metadata a publication was discovered with. -/
def RegisteredPublication.DescribedBy (row : RegisteredPublication) (pub : DiscoveredPublication) :
    Prop :=
  -- All columns but the id, the models and the bookkeeping.
  row.title = pub.title ∧ row.locale = pub.locale ∧ row.sourceUrl = pub.sourceUrl ∧
    row.series = pub.series ∧ row.models = pub.models ∧ row.procedures = pub.procedures ∧
    row.pubType = pub.pubType

open RegistryCall in
/-- What a history says about the row of a publication. -/
structure RowFollows (history : List RegistryCall) (pubId : String) (row : RegisteredPublication) :
    Prop where
  named : row.pubId = pubId
  models_sorted : row.referencedByModels.Pairwise (· < ·)
  mem_models : ∀ model, model ∈ row.referencedByModels ↔ model ∈ passedModels pubId history
  /-- The latest upsert gave the hash and the time of the last sighting. -/
  sighted : ∃ pub models, latest (upserts pubId) history =
    some (.upsert pub models row.lastSeenAt) ∧ row.contentHash = pub.contentHash
  /-- The latest upsert with a new hash gave the metadata. -/
  described : ∃ pub models now, latest (changesContent pubId) history =
    some (.upsert pub models now) ∧ row.DescribedBy pub
  /-- The first upsert gave the time of discovery. -/
  discovered : ∃ pub models, latest (inserts pubId) history =
    some (.upsert pub models row.discoveredAt)
  /-- Nothing set the status after the flip that made it ingested. -/
  ingested : row.status = .ingested ↔
    latest (setsStatus pubId) history = some (.setStatus pubId .ingested)

section Sets

/-- A sorted set is strictly sorted. -/
theorem sortedSet_pairwise (texts : List String) : (sortedSet texts).Pairwise (· < ·) := by
  -- Sorting leaves no inversion, and without duplicates no equality.
  have distinct : (sortedSet texts).Nodup :=
    (List.perm_insertionSort _ _).nodup_iff.mpr (List.nodup_dedup texts)
  have sorted : (sortedSet texts).Pairwise (· ≤ ·) := List.pairwise_insertionSort _ _
  exact (sorted.and distinct).imp fun both => lt_of_le_of_ne both.1 both.2

/-- A sorted set has the members of the list it is made of. -/
@[simp] theorem mem_sortedSet {texts : List String} {text : String} :
    text ∈ sortedSet texts ↔ text ∈ texts := by
  rw [sortedSet, List.mem_insertionSort, List.mem_dedup]

/-- Lists with the same members make the same sorted set. -/
theorem sortedSet_congr {first second : List String}
    (same : ∀ text, text ∈ first ↔ text ∈ second) : sortedSet first = sortedSet second := by
  -- A strictly sorted list is determined by its members.
  refine (sortedSet_pairwise first).eq_of_mem_iff (sortedSet_pairwise second) fun text => ?_
  rw [mem_sortedSet, mem_sortedSet, same]

end Sets

section Rows

variable {registry : Registry} {pubId : String} {row : RegisteredPublication}

/-- The statements of a status flip do what the flip does in one step. -/
theorem setStatusStatements_eq {status : PublicationStatus} :
    setStatusStatements pubId status registry =
      call (fun registry => (registry.setStatus pubId status).map fun next => (next, ()))
        registry := by
  -- Both look the row up first and change it only when it is there.
  rw [setStatusStatements, get_bind]
  simp only [call, Registry.setStatus]
  cases registry.getRow pubId <;> rfl

/-- What a call does to the row of one publication. -/
def rowAfterCall (pubId : String) (row : Option RegisteredPublication) :
    RegistryCall → Option RegisteredPublication
  -- The row is made by its first upsert and rewritten by every later one.
  | .upsert pub referencedByModels now =>
    if pub.pubId = pubId then
      some (row.elim (Registry.firstSeen pub referencedByModels now)
        (Registry.seen pub referencedByModels now))
    else row
  | .setStatus flipped status =>
    -- A flip of a publication without a row does nothing.
    if flipped = pubId then row.map fun row => { row with status } else row

/-- A call changes the row of each publication on its own. -/
theorem getRow_perform (registry : Registry) (registryCall : RegistryCall) (pubId : String) :
    (RegistryCall.perform registry registryCall).getRow pubId =
      rowAfterCall pubId (registry.getRow pubId) registryCall := by
  cases registryCall with
  | upsert pub models now =>
    change (registry.upsert pub models now).1.getRow pubId = _
    by_cases same : pub.pubId = pubId
    · subst same
      rw [Registry.getRow_upsert, rowAfterCall, if_pos rfl]
    · rw [rowAfterCall, if_neg same]
      exact Registry.getRow_upsert_ne models now same
  | setStatus flipped status =>
    simp only [RegistryCall.perform, RegistryCall.statements, setStatusStatements_eq, call,
      Registry.setStatus, rowAfterCall]
    cases found : registry.getRow flipped with
    | none =>
      -- An unknown publication is refused, and it has no row to change.
      by_cases same : flipped = pubId
      · subst same
        simp [found, Except.map]
      · simp [same, Except.map]
    | some row =>
      by_cases same : flipped = pubId
      · subst same
        simp [Except.map, Registry.getRow_updateRow, found]
      · simp only [Except.map, if_neg same]
        exact Registry.getRow_updateRow_ne _ same

end Rows

/-- What a history says about a publication that may have a row. -/
def RowRecorded (history : List RegistryCall) (pubId : String) :
    Option RegisteredPublication → Prop
  | none =>
    -- Without a row nothing about the publication was upserted.
    latest (RegistryCall.upserts pubId) history = none ∧ passedModels pubId history = []
  | some row => RowFollows history pubId row

section Steps

open RegistryCall

variable {history : List RegistryCall} {registryCall : RegistryCall} {pubId : String}
  {row : RegisteredPublication} {pub : DiscoveredPublication} {models : List String} {now : Nat}

/-- One more call adds the models it names. -/
theorem passedModels_concat :
    passedModels pubId (history ++ [registryCall]) =
      passedModels pubId history ++ passedModels pubId [registryCall] := by
  -- The models of a history are those of its calls.
  simp [passedModels]

/-- A call about something else keeps the row as the history says. -/
theorem RowFollows.concat (follows : RowFollows history pubId row)
    (noUpsert : upserts pubId history registryCall = false)
    (noModels : passedModels pubId [registryCall] = []) {status : PublicationStatus}
    (ingested : status = .ingested ↔
      latest (setsStatus pubId) (history ++ [registryCall]) =
        some (.setStatus pubId .ingested)) :
    RowFollows (history ++ [registryCall]) pubId { row with status } where
  -- A call that is no upsert can only change the status of the row.
  named := follows.named
  models_sorted := follows.models_sorted
  mem_models model := by
    rw [passedModels_concat, noModels, List.append_nil]
    exact follows.mem_models model
  sighted := by
    rw [latest_concat, noUpsert]
    exact follows.sighted
  described := by
    rw [latest_concat, changesContent, noUpsert]
    exact follows.described
  discovered := by
    rw [latest_concat, inserts, noUpsert]
    exact follows.discovered
  ingested := ingested

/-- The first upsert of a publication makes the row the history says. -/
theorem rowFollows_firstSeen (unknown : latest (upserts pub.pubId) history = none)
    (noModels : passedModels pub.pubId history = []) :
    RowFollows (history ++ [.upsert pub models now]) pub.pubId
      (Registry.firstSeen pub models now) := by
  -- The call counts as an upsert, as a change and as an insertion.
  have upserted : upserts pub.pubId history (.upsert pub models now) = true := by simp [upserts]
  have changed : changesContent pub.pubId history (.upsert pub models now) = true := by
    simp [changesContent, upserted, unknown]
  constructor
  · rfl
  · exact sortedSet_pairwise models
  · intro model
    rw [passedModels_concat, noModels]
    simp [Registry.firstSeen, passedModels]
  · exact ⟨pub, models, by rw [latest_concat, upserted]; rfl, rfl⟩
  · refine ⟨pub, models, now, by rw [latest_concat, changed]; rfl, ?_⟩
    exact ⟨rfl, rfl, rfl, rfl, rfl, rfl, rfl⟩
  · refine ⟨pub, models, ?_⟩
    rw [latest_concat, inserts, upserted, unknown]
    rfl
  · rw [latest_concat, setsStatus, changed]
    simp [Registry.firstSeen]

/-- A later upsert of a publication leaves the row the history says. -/
theorem RowFollows.seen (follows : RowFollows history pub.pubId row) :
    RowFollows (history ++ [.upsert pub models now]) pub.pubId
      (Registry.seen pub models now row) := by
  obtain ⟨previous, previousModels, sighted, hash⟩ := follows.sighted
  obtain ⟨touchedModels, touchedTime, sameDiscovery⟩ := Registry.seen_touched pub models now row
  have upserted : upserts pub.pubId history (.upsert pub models now) = true := by simp [upserts]
  -- The row is known, so this upsert is not its first.
  have notFirst : inserts pub.pubId history (.upsert pub models now) = false := by
    simp [inserts, sighted]
  -- The content has changed when the hash has.
  have changed : changesContent pub.pubId history (.upsert pub models now) =
      decide (row.contentHash ≠ pub.contentHash) := by
    simp [changesContent, upserted, sighted, RegistryCall.contentHash, hash]
  constructor
  · exact (Registry.seen_pubId pub models now row).trans follows.named
  · rw [touchedModels]
    exact sortedSet_pairwise _
  · intro model
    rw [touchedModels, passedModels_concat, mem_sortedSet, List.mem_append, List.mem_append,
      follows.mem_models]
    simp [passedModels]
  · refine ⟨pub, models, ?_, Registry.seen_contentHash pub models now row⟩
    rw [latest_concat, upserted, touchedTime]
    rfl
  · -- The hash decides whether the metadata is taken over.
    rw [latest_concat, changed]
    by_cases same : row.contentHash = pub.contentHash
    · obtain ⟨source, sourceModels, sourceTime, found, facts⟩ := follows.described
      refine ⟨source, sourceModels, sourceTime, by simpa [same] using found, ?_⟩
      simpa [same, Registry.seen, RegisteredPublication.DescribedBy] using facts
    · refine ⟨pub, models, now, by simp [same], ?_⟩
      simp [same, Registry.seen, RegisteredPublication.DescribedBy]
  · rw [latest_concat, notFirst, sameDiscovery]
    exact follows.discovered
  · -- The hash decides whether the status is set.
    rw [latest_concat, setsStatus, changed]
    by_cases same : row.contentHash = pub.contentHash
    · simpa [same, Registry.seen] using follows.ingested
    · simp [same, Registry.seen]

/-- One more call keeps a publication recorded. -/
theorem RowRecorded.concat {known : Option RegisteredPublication}
    (recorded : RowRecorded history pubId known) :
    RowRecorded (history ++ [registryCall]) pubId (rowAfterCall pubId known registryCall) := by
  cases registryCall with
  | upsert pub models now =>
    by_cases same : pub.pubId = pubId
    · subst same
      rw [rowAfterCall, if_pos rfl]
      cases known with
      | none => exact rowFollows_firstSeen recorded.1 recorded.2
      | some row => exact RowFollows.seen recorded
    · -- An upsert of another publication leaves the row.
      have noUpsert : upserts pubId history (.upsert pub models now) = false := by
        simp [upserts, same]
      have noModels : passedModels pubId [.upsert pub models now] = [] := by
        simp [passedModels, same]
      rw [rowAfterCall, if_neg same]
      cases known with
      | none =>
        refine ⟨?_, ?_⟩
        · rw [latest_concat, noUpsert]
          exact recorded.1
        · rw [passedModels_concat, noModels, recorded.2]
          rfl
      | some row =>
        refine RowFollows.concat recorded noUpsert noModels ?_
        rw [latest_concat, setsStatus, changesContent, noUpsert]
        exact recorded.ingested
  | setStatus flipped status =>
    cases known with
    | none =>
      -- There is no row to flip.
      have nothing : rowAfterCall pubId none (.setStatus flipped status) = none := by
        simp [rowAfterCall]
      rw [nothing]
      refine ⟨?_, ?_⟩
      · rw [latest_concat, upserts]
        exact recorded.1
      · rw [passedModels_concat, recorded.2]
        rfl
    | some row =>
      by_cases same : flipped = pubId
      · -- The flip changes the status alone.
        rw [rowAfterCall, if_pos same]
        refine RowFollows.concat recorded rfl rfl ?_
        rw [latest_concat, setsStatus]
        simp [same]
      · rw [rowAfterCall, if_neg same]
        refine RowFollows.concat recorded rfl rfl ?_
        rw [latest_concat, setsStatus]
        simpa [same] using recorded.ingested

/-- After any history every publication is recorded as the history says. -/
theorem rowRecorded_after (history : List RegistryCall) (pubId : String) :
    RowRecorded history pubId ((registryAfter history).getRow pubId) := by
  -- The empty history has no row, and every call keeps what the row says.
  refine follows
    (fun history (registry : Registry) => RowRecorded history pubId (registry.getRow pubId))
    ?_ (fun history registryCall recorded => ?_) history
  · exact ⟨rfl, rfl⟩
  · rw [getRow_perform]
    exact recorded.concat

end Steps

section Calls

variable {registry : Registry} {pub : DiscoveredPublication} {models : List String}
  {row : RegisteredPublication}

/-- An upsert tells whether the row was absent, had another hash, or had the same one. -/
theorem upsert_outcome (registry : Registry) (pub : DiscoveredPublication) (models : List String)
    (now : Nat) :
    ((registry.upsert pub models now).2 = .inserted ↔ registry.getRow pub.pubId = none) ∧
      ((registry.upsert pub models now).2 = .stale ↔
        ∃ row, registry.getRow pub.pubId = some row ∧ row.contentHash ≠ pub.contentHash) ∧
      ((registry.upsert pub models now).2 = .unchanged ↔
        ∃ row, registry.getRow pub.pubId = some row ∧ row.contentHash = pub.contentHash) := by
  -- The three branches of the upsert report the three outcomes.
  unfold Registry.upsert
  split
  · rename_i missing
    simp [missing]
  · rename_i row found
    by_cases same : row.contentHash = pub.contentHash
    · simp [found, same]
    · simp [found, same]

/-- Seeing a publication again right away only moves the time of the last sighting. -/
theorem seen_again {later : Nat} {known : List String} (hash : row.contentHash = pub.contentHash)
    (recorded : row.referencedByModels = sortedSet known) (included : models ⊆ known) :
    Registry.seen pub models later row = { row with lastSeenAt := later } := by
  -- The models are all recorded, so adding them makes the same set.
  have same : sortedSet (row.referencedByModels ++ models) = row.referencedByModels := by
    rw [recorded]
    refine sortedSet_congr fun model => ?_
    rw [List.mem_append, mem_sortedSet]
    exact or_iff_left_of_imp fun member => included member
  simp [Registry.seen, hash, same]

/-- A repeated upsert moves the time of the last sighting of its row and changes nothing else. -/
theorem upsert_again (registry : Registry) (pub : DiscoveredPublication) (models : List String)
    (now later : Nat) :
    (((registry.upsert pub models now).1.upsert pub models later).1).rows =
      (registry.upsert pub models now).1.rows.map fun row =>
        if row.pubId = pub.pubId then { row with lastSeenAt := later } else row := by
  obtain ⟨seenRow, found⟩ : ∃ row, (registry.upsert pub models now).1.getRow pub.pubId = some row :=
    ⟨_, Registry.getRow_upsert pub models now⟩
  -- The second upsert finds the same hash and the same models.
  have again : Registry.seen pub models later seenRow = { seenRow with lastSeenAt := later } := by
    rw [Registry.getRow_upsert, Option.some.injEq] at found
    subst found
    cases registry.getRow pub.pubId with
    | none => exact seen_again rfl rfl (List.Subset.refl models)
    | some old =>
      refine seen_again (Registry.seen_contentHash pub models now old) ?_
        (List.subset_append_right old.referencedByModels models)
      exact (Registry.seen_touched pub models now old).1
  generalize (registry.upsert pub models now).1 = first at found
  unfold Registry.upsert
  split
  · rename_i missing
    cases missing.symm.trans found
  · -- The row with the id is the one that was just seen.
    simp only [Registry.updateRow]
    refine List.map_congr_left fun row member => ?_
    by_cases same : row.pubId = pub.pubId
    · have seenMember := List.mem_of_find?_eq_some found
      have seenId : seenRow.pubId = pub.pubId := by simpa using List.find?_some found
      obtain rfl := Table.eq_of_key first.pubIds_nodup member seenMember (same.trans seenId.symm)
      rw [if_pos same, if_pos same, again]
    · rw [if_neg same, if_neg same]

/-- A flip of an unknown publication is refused before anything is written. -/
theorem setStatusStatements_of_unknown {pubId : String} {status : PublicationStatus}
    (unknown : registry.getRow pubId = none) :
    setStatusStatements pubId status registry =
      .error ⟨"unknown publication: " ++ pubId⟩ registry := by
  -- The row is looked up before anything is written.
  simp [setStatusStatements_eq, call, Registry.setStatus, unknown, Except.map]

open RegistryCall in
/-- After any history the registry is what the history says, and so is what it answers. -/
theorem registryAfter_follows (history : List RegistryCall) :
    ((registryAfter history).rows.map RegisteredPublication.pubId).Nodup ∧
      (∀ pubId, (registryAfter history).getRow pubId = none →
        latest (upserts pubId) history = none) ∧
      (∀ pubId row, (registryAfter history).getRow pubId = some row →
        RowFollows history pubId row) ∧
      (∀ pub models now,
        (((registryAfter history).upsert pub models now).2 = .inserted ↔
          (registryAfter history).getRow pub.pubId = none) ∧
        (((registryAfter history).upsert pub models now).2 = .stale ↔
          ∃ row, (registryAfter history).getRow pub.pubId = some row ∧
            row.contentHash ≠ pub.contentHash) ∧
        (((registryAfter history).upsert pub models now).2 = .unchanged ↔
          ∃ row, (registryAfter history).getRow pub.pubId = some row ∧
            row.contentHash = pub.contentHash)) ∧
      (∀ pubId status, (registryAfter history).getRow pubId = none →
        setStatusStatements pubId status (registryAfter history) =
          .error ⟨"unknown publication: " ++ pubId⟩ (registryAfter history)) ∧
      ∀ pub models now later,
        (registryAfter (history ++ [.upsert pub models now, .upsert pub models later])).rows =
          (registryAfter (history ++ [.upsert pub models now])).rows.map fun row =>
            if row.pubId = pub.pubId then { row with lastSeenAt := later } else row := by
  -- The state after a history is recorded, and the answers follow from the state.
  refine ⟨Registry.pubIds_nodup _, fun pubId missing => ?_, fun pubId row found => ?_,
    upsert_outcome _, fun pubId status => setStatusStatements_of_unknown,
    fun pub models now later => ?_⟩
  · have recorded := rowRecorded_after history pubId
    rw [missing] at recorded
    exact recorded.1
  · have recorded := rowRecorded_after history pubId
    rw [found] at recorded
    exact recorded
  -- The history ends with the same upsert at two times.
  · have twice : history ++ [RegistryCall.upsert pub models now, .upsert pub models later] =
        (history ++ [.upsert pub models now]) ++ [.upsert pub models later] := by simp
    rw [twice, registryAfter, after_concat, registryAfter, after_concat]
    exact upsert_again _ pub models now later

end Calls

end TorqueFinder
