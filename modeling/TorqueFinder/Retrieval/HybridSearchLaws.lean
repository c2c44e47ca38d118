import TorqueFinder.Retrieval.HybridSearch
import TorqueFinder.Retrieval.PageExpansionLaws

/-! The stages of a hybrid search, and how the returned hits come out of them. -/

namespace TorqueFinder

open Ranking

section Rows

variable {rows neighborRows : List ChunkRow} {chunkId : Int} {row : ChunkRow}

/-- The row held for a chunk is one of the rows and carries the id of the chunk. -/
theorem rowOf_spec (found : rowOf rows chunkId = some row) : row ∈ rows ∧ row.chunkId = chunkId :=
  ⟨by simpa using List.mem_of_find?_eq_some found, by simpa using List.find?_some found⟩

/-- A chunk has a row exactly when some row carries its id. -/
theorem rowOf_isSome : (rowOf rows chunkId).isSome ↔ chunkId ∈ rows.map ChunkRow.chunkId := by
  simp [rowOf]

/-- A hit is hydrated from a row that carries its id. -/
theorem hydratedRow_id (found : hydratedRow rows neighborRows chunkId = some row) :
    row.chunkId = chunkId := by
  -- Both dictionaries are keyed by the id of the row.
  unfold hydratedRow at found
  split at found
  · rename_i pooled
    exact (Option.some.inj found) ▸ (rowOf_spec pooled).2
  · exact (rowOf_spec found).2

/-- Hydration keeps the id of the row. -/
@[simp] theorem rowToRetrieved_chunkId (row : ChunkRow) (score : ℚ) :
    (rowToRetrieved row score).chunkId = row.chunkId := rfl

/-- The hydrated hits carry the ids of the assembled hits that have a row, in order. -/
theorem hydrate_ids (assembled : List FusedHit) :
    (hydrate rows neighborRows assembled).map RetrievedChunk.chunkId =
      (assembled.map FusedHit.chunkId).filter fun id =>
        (hydratedRow rows neighborRows id).isSome := by
  -- A hit without a row is dropped, any other keeps its id.
  induction assembled with
  | nil => rfl
  | cons hit rest ih =>
    simp only [hydrate] at ih
    cases found : hydratedRow rows neighborRows hit.chunkId with
    | none => simp [hydrate, found, ih]
    | some row => simp [hydrate, found, ih, hydratedRow_id found]

/-- Hydration works through a list part by part. -/
theorem hydrate_append (front back : List FusedHit) :
    hydrate rows neighborRows (front ++ back) =
      hydrate rows neighborRows front ++ hydrate rows neighborRows back := by
  -- Each candidate is looked up on its own.
  simp [hydrate]

end Rows

section Leaders

variable {base fused : List FusedHit} {metas : Int → Option ChunkMeta} {leader : FusedHit}

/-- The anchor is a hit of the leading document, found in the base or else in the pool. -/
theorem leaderHit_spec (chosen : leaderHit base fused metas = some leader) :
    ∃ documentId, selectLeadingDocument fused metas = some documentId ∧
      ofDocument metas documentId leader ∧ (leader ∈ base ∨ leader ∈ fused) := by
  -- The base is searched for the best page, and only then the rest of the pool.
  unfold leaderHit at chosen
  split at chosen
  · cases chosen
  · rename_i documentId leading
    refine ⟨documentId, leading, ?_⟩
    split at chosen
    · rename_i first selected
      obtain rfl := Option.some.inj chosen
      obtain ⟨seeded, owned⟩ := List.mem_filter.mp (selectLeaderChunk_mem selected)
      exact ⟨owned, Or.inl seeded⟩
    · exact ⟨List.find?_some chosen, Or.inr (List.mem_of_find?_eq_some chosen)⟩

/-- A leading document always has an anchor. -/
theorem leaderHit_isSome {documentId : Int}
    (leading : selectLeadingDocument fused metas = some documentId) :
    (leaderHit base fused metas).isSome := by
  -- The evidence for the document comes from a pool hit, which the fallback finds.
  obtain ⟨hit, pooled, owned⟩ := selectLeadingDocument_mem leading
  rw [leaderHit, leading]
  dsimp only
  split
  · rfl
  · exact List.find?_isSome.mpr ⟨hit, pooled, owned⟩

/-- An expanded anchor is a PDF page in a positive window. -/
theorem expandedLeader_spec {pageWindow : Nat} {leaderMeta : ChunkMeta}
    (expanded : expandedLeader pageWindow base fused metas = some (leader, leaderMeta)) :
    leaderHit base fused metas = some leader ∧ metas leader.chunkId = some leaderMeta ∧
      leaderMeta.isPdf = true ∧ 0 < pageWindow := by
  -- Every other branch expands nothing.
  unfold expandedLeader at expanded
  split at expanded
  · cases expanded
  · rename_i anchor chosen
    split at expanded
    · cases expanded
    · rename_i facts known
      split at expanded
      · rename_i expandable
        cases expanded
        exact ⟨chosen, known, expandable.1, expandable.2⟩
      · cases expanded

end Leaders

/-- What one search reads before it expands: the embedding, both channels and the pool rows. -/
structure Reading (session : Session) (queryText : String) (perChannelK : Nat) where
  embedding : Embedding
  keywordHits : Channel
  vectorHits : Channel
  rows : List ChunkRow
  embedded : session.embedQuery queryText = .ok embedding
  keyword_found : keywordSearch session queryText perChannelK = .ok keywordHits
  vector_found : vectorSearch session embedding perChannelK = .ok vectorHits
  rows_loaded : reciprocalRankFusion [keywordHits, vectorHits] ≠ [] →
    session.loadChunks
      ((reciprocalRankFusion [keywordHits, vectorHits]).map FusedHit.chunkId) = .ok rows
  /-- Without a pool nothing is loaded. -/
  rows_empty : reciprocalRankFusion [keywordHits, vectorHits] = [] → rows = []

namespace Reading

variable {session : Session} {queryText : String} {perChannelK : Nat}
  (reading : Reading session queryText perChannelK) (order : SetOrder)
  (topK pageWindow maxCandidates : Nat)

/-- The fused pool in raw score order. -/
def pool : List FusedHit := reciprocalRankFusion [reading.keywordHits, reading.vectorHits]

/-- The expansion facts of the pool. -/
def metas : Int → Option ChunkMeta := metasOf reading.rows

/-- The pool after the title and product passes. -/
def fused : List FusedHit := rerankedPool order queryText reading.pool reading.rows

/-- The base hits: the front of the reranked pool. -/
def base : List FusedHit := (reading.fused order).take topK

/-- The document the pool gives the most evidence for. -/
def leadingDocument : Option Int := selectLeadingDocument (reading.fused order) reading.metas

/-- The anchor with its facts, when the leading document is expanded. -/
def expansion : Option (FusedHit × ChunkMeta) :=
  expandedLeader pageWindow (reading.base order topK) (reading.fused order) reading.metas

/-- The base hits in the order they enter the candidate list. -/
def orderedBase : List FusedHit :=
  -- Without a leader to expand, the base keeps its order.
  match reading.expansion order topK pageWindow with
  | none => reading.base order topK
  | some (_, leaderMeta) =>
    rerankWithinDoc queryText (reading.base order topK) reading.metas leaderMeta.documentId

/-- The base hits within the page budget. -/
def winners : List FusedHit := (reading.orderedBase order topK pageWindow).take maxCandidates

/-- The neighbour rows the search loads, or the failure to load them. -/
def neighborRows : Except RetrievalError (List ChunkRow) :=
  -- The window reaches the same number of pages to both sides.
  match reading.expansion order topK pageWindow with
  | none => .ok []
  | some (_, leaderMeta) =>
    orRaise "Failed to load leader-doc neighbor rows"
      (session.loadDocNeighbors leaderMeta.documentId (leaderMeta.ordinal - pageWindow)
        (leaderMeta.ordinal + pageWindow))

/-- The neighbours appended behind the base winners. -/
def appended (neighborRows : List ChunkRow) : List FusedHit :=
  -- The room is what the base leaves of the budget.
  match reading.expansion order topK pageWindow with
  | none => []
  | some (leader, leaderMeta) =>
    appendedNeighbors (reading.winners order topK pageWindow maxCandidates)
      (neighborRows.map ChunkRow.toNeighborMeta) leaderMeta.ordinal leader.score
      (maxCandidates - (reading.base order topK).length)

variable {reading order topK pageWindow maxCandidates} {results : List RetrievedChunk}

/-- A search that returns has read something. -/
theorem exists_of_hybridSearch
    (served : hybridSearch order session queryText topK perChannelK pageWindow maxCandidates =
      .ok results) : Nonempty (Reading session queryText perChannelK) := by
  -- Each call before the expansion must have succeeded for the search to return.
  unfold hybridSearch at served
  cases embedded : session.embedQuery queryText with
  | error failure => simp [embedded, bind, Except.bind] at served
  | ok embedding =>
    cases keyword : keywordSearch session queryText perChannelK with
    | error failure => simp [embedded, keyword, bind, Except.bind] at served
    | ok keywordHits =>
      cases vector : vectorSearch session embedding perChannelK with
      | error failure => simp [embedded, keyword, vector, bind, Except.bind] at served
      | ok vectorHits =>
        by_cases empty : reciprocalRankFusion [keywordHits, vectorHits] = []
        · exact ⟨⟨embedding, keywordHits, vectorHits, [], embedded, keyword, vector,
            fun filled => absurd empty filled, fun _ => rfl⟩⟩
        · cases loaded : session.loadChunks
              ((reciprocalRankFusion [keywordHits, vectorHits]).map FusedHit.chunkId) with
          | error failure =>
            simp [embedded, keyword, vector, empty, loaded, orRaise, bind, Except.bind] at served
          | ok rows =>
            exact ⟨⟨embedding, keywordHits, vectorHits, rows, embedded, keyword, vector,
              fun _ => loaded, fun nothing => absurd nothing empty⟩⟩

/-- The reranked pool holds the hits of the fused pool. -/
theorem fused_perm : (reading.fused order).Perm reading.pool :=
  rerankByProduct_perm.trans rerankByTitle_perm

/-- A pool without hits has no leading document. -/
@[simp] theorem selectLeadingDocument_nil (metas : Int → Option ChunkMeta) :
    selectLeadingDocument [] metas = none := rfl

/-- An empty pool has nothing to expand. -/
theorem expansion_of_empty (empty : reading.pool = []) :
    reading.expansion order topK pageWindow = none := by
  -- The passes add no hit to an empty pool.
  have nothing : reading.fused order = [] := List.Perm.eq_nil (empty ▸ fused_perm)
  simp [expansion, expandedLeader, leaderHit, nothing]

variable (reading) in
/-- A search returns the hydrated base winners and behind them the hydrated neighbours. -/
theorem hybridSearch_eq :
    hybridSearch order session queryText topK perChannelK pageWindow maxCandidates =
      (reading.neighborRows order topK pageWindow).map fun neighborRows =>
        hydrate reading.rows neighborRows
          (reading.winners order topK pageWindow maxCandidates ++
            reading.appended order topK pageWindow maxCandidates neighborRows) := by
  unfold hybridSearch
  -- The reading is what the first three calls return.
  simp only [reading.embedded, reading.keyword_found, reading.vector_found, bind, Except.bind]
  change (if reading.pool = [] then _ else _) = _
  by_cases empty : reading.pool = []
  · -- Without a pool nothing is loaded, expanded or returned.
    have nothing : reading.fused order = [] := List.Perm.eq_nil (empty ▸ fused_perm)
    rw [if_pos empty]
    simp [neighborRows, winners, orderedBase, appended, expansion_of_empty empty, base, nothing,
      hydrate, Except.map, pure, Except.pure]
  · rw [if_neg empty]
    simp only [reading.rows_loaded empty, orRaise]
    -- From here on both sides branch on the same expansion.
    cases expanded : reading.expansion order topK pageWindow with
    | none =>
      have branch := expanded
      simp only [expansion, base, fused, metas, pool] at branch
      simp only [branch, neighborRows, winners, orderedBase, appended, expanded, List.append_nil]
      rfl
    | some found =>
      obtain ⟨leader, leaderMeta⟩ := found
      have branch := expanded
      simp only [expansion, base, fused, metas, pool] at branch
      simp only [branch, neighborRows, winners, orderedBase, appended, expanded, orRaise]
      cases session.loadDocNeighbors leaderMeta.documentId (leaderMeta.ordinal - pageWindow)
        (leaderMeta.ordinal + pageWindow) with
      | error failure => rfl
      | ok neighborRows =>
        simp only [Except.map, pure, Except.pure, assembleCandidates_eq,
          rerankWithinDoc_perm.length_eq]
        rfl

variable (reading) in
/-- A search that returns has loaded neighbour rows and hydrated from them. -/
theorem results_of_hybridSearch
    (served : hybridSearch order session queryText topK perChannelK pageWindow maxCandidates =
      .ok results) :
    ∃ neighborRows, reading.neighborRows order topK pageWindow = .ok neighborRows ∧
      results = hydrate reading.rows neighborRows
        (reading.winners order topK pageWindow maxCandidates ++
          reading.appended order topK pageWindow maxCandidates neighborRows) := by
  -- Only the neighbour rows can still fail to load.
  rw [hybridSearch_eq reading] at served
  cases loaded : reading.neighborRows order topK pageWindow with
  | error failure => simp [loaded, Except.map] at served
  | ok neighborRows =>
    simp only [loaded, Except.map, Except.ok.injEq] at served
    exact ⟨neighborRows, rfl, served.symm⟩

/-- The pool lists no chunk twice. -/
theorem pool_nodup_ids : (reading.pool.map FusedHit.chunkId).Nodup :=
  reciprocalRankFusion_nodup_ids _

/-- The reranked pool lists no chunk twice. -/
theorem fused_nodup_ids : ((reading.fused order).map FusedHit.chunkId).Nodup :=
  (fused_perm.map _).nodup_iff.mpr pool_nodup_ids

/-- The base lists no chunk twice. -/
theorem base_nodup_ids : ((reading.base order topK).map FusedHit.chunkId).Nodup :=
  fused_nodup_ids.sublist ((List.take_sublist _ _).map _)

/-- The base lists no hit twice. -/
theorem base_nodup : (reading.base order topK).Nodup := base_nodup_ids.of_map _

/-- The order the base enters the candidate list in rearranges the base. -/
theorem orderedBase_perm :
    (reading.orderedBase order topK pageWindow).Perm (reading.base order topK) := by
  -- Only an expanded leader reorders the base, and the reordering is a sort.
  unfold orderedBase
  split
  · exact List.Perm.refl _
  · exact rerankWithinDoc_perm

/-- The base in entering order lists no chunk twice. -/
theorem orderedBase_nodup_ids :
    ((reading.orderedBase order topK pageWindow).map FusedHit.chunkId).Nodup :=
  (orderedBase_perm.map _).nodup_iff.mpr base_nodup_ids

/-- The base in entering order lists no hit twice. -/
theorem orderedBase_nodup : (reading.orderedBase order topK pageWindow).Nodup :=
  orderedBase_nodup_ids.of_map _

/-- A winner is a base hit. -/
theorem mem_base_of_mem_winners {hit : FusedHit}
    (winner : hit ∈ reading.winners order topK pageWindow maxCandidates) :
    hit ∈ reading.base order topK :=
  -- The winners are a front part of the reordered base.
  orderedBase_perm.mem_iff.mp (List.mem_of_mem_take winner)

/-- Base hits with the same id are the same hit. -/
theorem eq_of_mem_base {first second : FusedHit} (left : first ∈ reading.base order topK)
    (right : second ∈ reading.base order topK) (same : first.chunkId = second.chunkId) :
    first = second :=
  -- A chunk stands in the base once.
  Table.eq_of_key base_nodup_ids left right same

/-- Nothing is appended when the base alone fills the budget. -/
theorem appended_of_full {neighborRows : List ChunkRow}
    (full : maxCandidates ≤ (reading.base order topK).length) :
    reading.appended order topK pageWindow maxCandidates neighborRows = [] := by
  -- There is no room left to append into.
  have noRoom : maxCandidates - (reading.base order topK).length = 0 := by omega
  unfold appended
  split
  · rfl
  · simp [noRoom, appendedNeighbors]

/-- With room to spare every base hit is a winner. -/
theorem winners_of_room (room : (reading.base order topK).length < maxCandidates) :
    reading.winners order topK pageWindow maxCandidates =
      reading.orderedBase order topK pageWindow :=
  -- A budget above the length of the base cuts nothing.
  List.take_of_length_le (by rw [orderedBase_perm.length_eq]; omega)

/-- An appended chunk is a loaded neighbour that is no base hit. -/
theorem appended_mem {neighborRows : List ChunkRow} {chunkId : Int}
    (member : chunkId ∈
      (reading.appended order topK pageWindow maxCandidates neighborRows).map FusedHit.chunkId) :
    chunkId ∈ neighborRows.map ChunkRow.chunkId ∧
      chunkId ∉ (reading.base order topK).map FusedHit.chunkId := by
  -- Only a search with room appends, and then all base hits are winners.
  by_cases full : maxCandidates ≤ (reading.base order topK).length
  · simp [appended_of_full full] at member
  · unfold appended at member
    split at member
    · simp at member
    · obtain ⟨given, apart⟩ := appendedNeighbors_mem member
      rw [winners_of_room (by omega), (orderedBase_perm.map _).mem_iff] at apart
      refine ⟨?_, apart⟩
      simpa [Function.comp_def, ChunkRow.toNeighborMeta, ChunkRow.toMeta] using given

/-- The appended chunks are pairwise different when the neighbour rows are. -/
theorem appended_nodup {neighborRows : List ChunkRow}
    (distinct : (neighborRows.map ChunkRow.chunkId).Nodup) :
    ((reading.appended order topK pageWindow maxCandidates neighborRows).map
      FusedHit.chunkId).Nodup := by
  -- The neighbours of an expansion are its neighbour rows.
  unfold appended
  split
  · exact List.nodup_nil
  · refine appendedNeighbors_nodup ?_
    simpa [Function.comp_def, ChunkRow.toNeighborMeta, ChunkRow.toMeta] using distinct

/-- Winners and appended neighbours together stay within the budget. -/
theorem assembled_length {neighborRows : List ChunkRow} :
    (reading.winners order topK pageWindow maxCandidates ++
      reading.appended order topK pageWindow maxCandidates neighborRows).length ≤
        maxCandidates := by
  -- The winners take what the base has, the neighbours what is left.
  have front : (reading.winners order topK pageWindow maxCandidates).length =
      min maxCandidates (reading.base order topK).length := by
    rw [winners, List.length_take, orderedBase_perm.length_eq]
  have back : (reading.appended order topK pageWindow maxCandidates neighborRows).length ≤
      maxCandidates - (reading.base order topK).length := by
    unfold appended
    split
    · exact Nat.zero_le _
    · exact appendedNeighbors_length
  rw [List.length_append]
  omega

section Results

variable {neighborRows : List ChunkRow}
  (served : results = hydrate reading.rows neighborRows
    (reading.winners order topK pageWindow maxCandidates ++
      reading.appended order topK pageWindow maxCandidates neighborRows))

include served

/-- The returned ids are those of the winners and of the appended neighbours that have a row. -/
theorem results_ids :
    results.map RetrievedChunk.chunkId =
      ((reading.winners order topK pageWindow maxCandidates).map FusedHit.chunkId).filter
          (fun id => (hydratedRow reading.rows neighborRows id).isSome) ++
        ((reading.appended order topK pageWindow maxCandidates neighborRows).map
            FusedHit.chunkId).filter
          fun id => (hydratedRow reading.rows neighborRows id).isSome := by
  -- Hydration drops hits without a row and keeps the order.
  rw [served, hydrate_ids, List.map_append, List.filter_append]

/-- A base hit is returned exactly when it is a winner that has a row. -/
theorem mem_results_iff {hit : FusedHit} (seeded : hit ∈ reading.base order topK) :
    hit.chunkId ∈ results.map RetrievedChunk.chunkId ↔
      hit ∈ reading.winners order topK pageWindow maxCandidates ∧
        (hydratedRow reading.rows neighborRows hit.chunkId).isSome := by
  -- A base hit is never among the appended neighbours, which are not winners.
  rw [results_ids served, List.mem_append, List.mem_filter, List.mem_filter]
  constructor
  -- Base ids determine their hits, so a returned id comes from a winner.
  · intro reason
    rcases reason with ⟨winner, present⟩ | ⟨behind, _⟩
    · obtain ⟨other, member, same⟩ := List.mem_map.mp winner
      exact ⟨eq_of_mem_base (mem_base_of_mem_winners member) seeded same ▸ member, present⟩
    · exact absurd (List.mem_map_of_mem seeded) (appended_mem behind).2
  · intro base
    obtain ⟨winner, present⟩ := base
    exact Or.inl ⟨List.mem_map_of_mem winner, present⟩

/-- Returned base hits stand in the order of the winners. -/
theorem precedes_results_iff {first second : FusedHit} (left : first ∈ reading.base order topK)
    (right : second ∈ reading.base order topK)
    (firstPresent : (hydratedRow reading.rows neighborRows first.chunkId).isSome)
    (secondPresent : (hydratedRow reading.rows neighborRows second.chunkId).isSome) :
    Precedes (results.map RetrievedChunk.chunkId) first.chunkId second.chunkId ↔
      Precedes (reading.winners order topK pageWindow maxCandidates) first second := by
  rw [results_ids served]
  constructor
  · intro held
    -- The later hit is no appended neighbour, so the order comes from the winners' part.
    have front := held.of_append fun behind =>
      (appended_mem (List.mem_of_mem_filter behind)).2 (List.mem_map_of_mem right)
    obtain ⟨other, another, inner, firstSame, secondSame⟩ :=
      precedes_map.mp (front.of_sublist List.filter_sublist)
    have firstIs := eq_of_mem_base (mem_base_of_mem_winners inner.left_mem) left firstSame
    have secondIs := eq_of_mem_base (mem_base_of_mem_winners inner.right_mem) right secondSame
    exact firstIs ▸ secondIs ▸ inner
  · intro held
    -- Both have rows, so neither is filtered out, and the winners come first.
    exact ((held.map FusedHit.chunkId).filter firstPresent secondPresent).of_sublist
      (List.sublist_append_left _ _)

end Results

end Reading

end TorqueFinder
