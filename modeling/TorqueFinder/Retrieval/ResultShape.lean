import TorqueFinder.Retrieval.StoreSession

/-! The shape of a search result over a consistent store, and its leading document. -/

namespace TorqueFinder

open Ranking

namespace Reading

variable {session : Session} {queryText : String} {perChannelK : Nat} {store : Store}
  {reading : Reading session queryText perChannelK} {order : SetOrder}
  {topK pageWindow maxCandidates : Nat} {neighborRows : List ChunkRow} {chunkId : Int}

section Consistency

variable (reads : session.Reads store)

include reads

/-- The pool rows are the store's rows of the pool chunks. -/
theorem rows_perm :
    reading.rows.Perm (store.rowsWithIds (reading.pool.map FusedHit.chunkId)) := by
  -- An empty pool loads nothing, any other pool loads the store's rows.
  by_cases empty : reading.pool = []
  · rw [reading.rows_empty empty, empty]
    simp [Store.rowsWithIds]
  · obtain ⟨rows, loaded, same⟩ := reads.chunks (reading.pool.map FusedHit.chunkId)
    have loadedRows := reading.rows_loaded empty
    rw [← pool, loaded] at loadedRows
    exact Except.ok.inj loadedRows ▸ same

/-- A pool row is a row of the store. -/
theorem mem_chunkRows_of_rows {row : ChunkRow} (member : row ∈ reading.rows) :
    row ∈ store.chunkRows :=
  List.mem_of_mem_filter ((rows_perm reads).mem_iff.mp member)

/-- A pool chunk has a loaded row exactly when the store has the chunk. -/
theorem rowOf_isSome_iff (pooled : chunkId ∈ reading.pool.map FusedHit.chunkId) :
    (rowOf reading.rows chunkId).isSome ↔ chunkId ∈ store.chunkRows.map ChunkRow.chunkId := by
  -- The pool asks the store for exactly its own ids.
  rw [rowOf_isSome, ((rows_perm reads).map _).mem_iff]
  simp only [Store.rowsWithIds, List.mem_map, List.mem_filter, decide_eq_true_eq]
  constructor
  · intro hydrated
    obtain ⟨row, ⟨member, _⟩, rfl⟩ := hydrated
    exact ⟨row, member, rfl⟩
  · intro hydrated
    obtain ⟨row, member, rfl⟩ := hydrated
    exact ⟨row, ⟨member, List.mem_map.mp pooled⟩, rfl⟩

/-- When the search expands, its neighbour rows are the store's pages around the anchor. -/
theorem neighborRows_perm {leader : FusedHit} {leaderMeta : ChunkMeta}
    (expanded : reading.expansion order topK pageWindow = some (leader, leaderMeta)) :
    ∃ neighborRows, reading.neighborRows order topK pageWindow = .ok neighborRows ∧
      neighborRows.Perm (store.rowsBetween leaderMeta.documentId
        (leaderMeta.ordinal - pageWindow) (leaderMeta.ordinal + pageWindow)) := by
  -- The window reaches as far below the anchor as above it.
  obtain ⟨rows, loaded, same⟩ := reads.neighbors leaderMeta.documentId
    (leaderMeta.ordinal - pageWindow) (leaderMeta.ordinal + pageWindow)
  exact ⟨rows, by simp only [Reading.neighborRows, expanded, loaded, orRaise], same⟩

/-- The neighbour rows always load, and they are rows of the store without repeats. -/
theorem neighborRows_ok :
    ∃ neighborRows, reading.neighborRows order topK pageWindow = .ok neighborRows ∧
      (∀ row ∈ neighborRows, row ∈ store.chunkRows) ∧
      (neighborRows.map ChunkRow.chunkId).Nodup := by
  -- Without an expansion nothing is loaded, else the store is asked around the anchor.
  cases expanded : reading.expansion order topK pageWindow with
  | none => exact ⟨[], by simp only [Reading.neighborRows, expanded], by simp, by simp⟩
  | some found =>
    obtain ⟨neighborRows, loaded, same⟩ := neighborRows_perm reads expanded
    refine ⟨neighborRows, loaded, fun row member => ?_, ?_⟩
    · exact List.mem_of_mem_filter (same.mem_iff.mp member)
    · exact (same.map _).nodup_iff.mpr (store.rowsBetween_nodup _ _ _)

/-- A hydrated row is the store's row of that chunk. -/
theorem hydratedRow_mem {row : ChunkRow} (stored : ∀ row ∈ neighborRows, row ∈ store.chunkRows)
    (found : hydratedRow reading.rows neighborRows chunkId = some row) :
    row ∈ store.chunkRows := by
  -- The row is a pool row or a neighbour row, and both come from the store.
  unfold hydratedRow at found
  split at found
  · rename_i pooled
    obtain rfl := Option.some.inj found
    exact mem_chunkRows_of_rows reads (rowOf_spec pooled).1
  · exact stored row (rowOf_spec found).1

end Consistency

variable (reading) (store) (order) (topK pageWindow maxCandidates)

/-- A PDF page of the leading document within the window around the anchor page. -/
def IsNeighborPage (result : RetrievedChunk) : Prop :=
  -- The anchor itself lies in the window as well.
  ∃ leader leaderMeta, reading.expansion order topK pageWindow = some (leader, leaderMeta) ∧
    reading.leadingDocument order = some leaderMeta.documentId ∧
    result.documentId = leaderMeta.documentId ∧ result.sourceType = .pdf ∧
    |result.ordinal - leaderMeta.ordinal| ≤ pageWindow

/-- The shape of a search result over a store. -/
structure WellShaped (results : List RetrievedChunk) : Prop where
  distinct : (results.map RetrievedChunk.chunkId).Nodup
  bounded : results.length ≤ maxCandidates
  /-- Every hit carries the row of its own chunk. -/
  hydrated : ∀ result ∈ results, ∃ row ∈ store.chunkRows,
    row.chunkId = result.chunkId ∧ result = rowToRetrieved row result.score
  /-- Pool hits without a row are left out. -/
  skipped : ∀ hit ∈ reading.pool, hit.chunkId ∉ store.chunkRows.map ChunkRow.chunkId →
    hit.chunkId ∉ results.map RetrievedChunk.chunkId
  /-- The base comes first, whole when it fits the budget, and only neighbours follow. -/
  parts : ∃ front back, results = front ++ back ∧
    (∀ result ∈ front, result.chunkId ∈ (reading.base order topK).map FusedHit.chunkId) ∧
    (topK ≤ maxCandidates → ∀ hit ∈ reading.base order topK,
      hit.chunkId ∈ store.chunkRows.map ChunkRow.chunkId →
        hit.chunkId ∈ front.map RetrievedChunk.chunkId) ∧
    ∀ result ∈ back, result.chunkId ∉ (reading.base order topK).map FusedHit.chunkId ∧
      reading.IsNeighborPage order topK pageWindow result

variable {reading store order topK pageWindow maxCandidates}

/-- The facts of a chunk are read off its pool row. -/
theorem metas_eq_some {known : ChunkMeta} :
    reading.metas chunkId = some known ↔
      ∃ row, rowOf reading.rows chunkId = some row ∧ row.toMeta = known :=
  -- The rows of the pool are looked up by their chunk.
  Option.map_eq_some_iff

/-- An expanded anchor is a page of the leading document. -/
theorem expansion_spec {leader : FusedHit} {leaderMeta : ChunkMeta}
    (expanded : reading.expansion order topK pageWindow = some (leader, leaderMeta)) :
    reading.leadingDocument order = some leaderMeta.documentId ∧
      reading.metas leader.chunkId = some leaderMeta ∧ leaderMeta.isPdf = true := by
  -- The anchor belongs to the leading document, and its facts name that document.
  obtain ⟨chosen, known, isPdf, _⟩ := expandedLeader_spec expanded
  obtain ⟨documentId, leading, owned, _⟩ := leaderHit_spec chosen
  obtain ⟨facts, same, rfl⟩ := ofDocument_iff.mp owned
  obtain rfl := Option.some.inj (same.symm.trans known)
  exact ⟨leading, known, isPdf⟩

section Shape

variable (reads : session.Reads store)

include reads

/-- A hydrated appended hit is a neighbouring page of the leading document. -/
theorem isNeighborPage_of_appended
    (loaded : reading.neighborRows order topK pageWindow = .ok neighborRows) {hit : FusedHit}
    (appended : hit ∈ reading.appended order topK pageWindow maxCandidates neighborRows)
    {row : ChunkRow} (found : hydratedRow reading.rows neighborRows hit.chunkId = some row) :
    reading.IsNeighborPage order topK pageWindow (rowToRetrieved row hit.score) := by
  -- Without an expansion nothing is appended.
  cases expanded : reading.expansion order topK pageWindow with
  | none => simp [Reading.appended, expanded] at appended
  | some pair =>
    obtain ⟨leader, leaderMeta⟩ := pair
    obtain ⟨rows, alsoLoaded, same⟩ := neighborRows_perm reads expanded
    obtain rfl := Except.ok.inj (loaded.symm.trans alsoLoaded)
    obtain ⟨leading, known, isPdf⟩ := expansion_spec expanded
    -- The neighbour row and the hydrated row are the store's one row of the chunk.
    obtain ⟨neighbor, member, id⟩ := List.mem_map.mp (appended_mem (List.mem_map_of_mem appended)).1
    obtain ⟨stored, inside⟩ := List.mem_filter.mp (same.mem_iff.mp member)
    have hydrated := hydratedRow_mem reads
      (fun row member => List.mem_of_mem_filter (same.mem_iff.mp member)) found
    obtain rfl := Table.eq_of_key store.chunkRows_nodup_ids stored hydrated
      (id.trans (hydratedRow_id found).symm)
    obtain ⟨owner, low, high⟩ := of_decide_eq_true inside
    -- The anchor's row is a PDF row of the same document.
    obtain ⟨anchorRow, anchorFound, facts⟩ := metas_eq_some.mp known
    have anchorStored := mem_chunkRows_of_rows reads (rowOf_spec anchorFound).1
    have pdf : anchorRow.sourceType = .pdf := by
      rw [← facts] at isPdf
      simpa [ChunkRow.toMeta] using isPdf
    have ownerRow : neighbor.documentId = anchorRow.documentId := by
      rw [owner, ← facts]
      rfl
    refine ⟨leader, leaderMeta, expanded, leading, owner, ?_, ?_⟩
    · obtain ⟨document, kept, id, sourceType⟩ := Store.document_of_row anchorStored
      rw [← pdf, ← sourceType]
      exact Store.sourceType_of_document kept stored (id.trans ownerRow.symm)
    · rw [abs_le]
      simp only [rowToRetrieved]
      omega

/-- A hydrated hit carries the store's row of its own chunk. -/
theorem mem_hydrate (stored : ∀ row ∈ neighborRows, row ∈ store.chunkRows)
    {assembled : List FusedHit} {result : RetrievedChunk}
    (member : result ∈ hydrate reading.rows neighborRows assembled) :
    ∃ hit ∈ assembled, ∃ row ∈ store.chunkRows, row.chunkId = hit.chunkId ∧
      hydratedRow reading.rows neighborRows hit.chunkId = some row ∧
        result = rowToRetrieved row hit.score := by
  -- Each hydrated hit is the image of an assembled one.
  obtain ⟨hit, assembledHit, image⟩ := List.mem_filterMap.mp member
  obtain ⟨row, found, rfl⟩ := Option.map_eq_some_iff.mp image
  exact ⟨hit, assembledHit, row, hydratedRow_mem reads stored found, hydratedRow_id found,
    found, rfl⟩

end Shape

/-- Every base hit with a row is among the hydrated winners when the base fits the budget. -/
theorem base_covered (fits : topK ≤ maxCandidates) {hit : FusedHit}
    (seeded : hit ∈ reading.base order topK) (row : (rowOf reading.rows hit.chunkId).isSome) :
    hit.chunkId ∈ (hydrate reading.rows neighborRows
      (reading.winners order topK pageWindow maxCandidates)).map RetrievedChunk.chunkId := by
  -- The budget takes the whole base, and the reordering loses nothing.
  have all : reading.winners order topK pageWindow maxCandidates =
      reading.orderedBase order topK pageWindow := by
    refine List.take_of_length_le ?_
    rw [orderedBase_perm.length_eq, base, List.length_take]
    omega
  obtain ⟨found, held⟩ := Option.isSome_iff_exists.mp row
  rw [hydrate_ids, all, List.mem_filter, (orderedBase_perm.map _).mem_iff]
  exact ⟨List.mem_map_of_mem seeded, by simp [hydratedRow, held]⟩

section Parts

variable {results : List RetrievedChunk}
  (served : results = hydrate reading.rows neighborRows
    (reading.winners order topK pageWindow maxCandidates ++
      reading.appended order topK pageWindow maxCandidates neighborRows))

include served

/-- No chunk is returned twice. -/
theorem results_nodup (distinct : (neighborRows.map ChunkRow.chunkId).Nodup) :
    (results.map RetrievedChunk.chunkId).Nodup := by
  -- Winners are base hits, appended neighbours are not.
  rw [served, hydrate_ids, List.map_append]
  refine List.Nodup.sublist List.filter_sublist (List.nodup_append.mpr ⟨?_, ?_, ?_⟩)
  · exact orderedBase_nodup_ids.sublist ((List.take_sublist _ _).map _)
  · exact appended_nodup distinct
  · rintro id winner _ appended rfl
    obtain ⟨hit, member, rfl⟩ := List.mem_map.mp winner
    exact (appended_mem appended).2 (List.mem_map_of_mem (mem_base_of_mem_winners member))

/-- No more hits are returned than the budget allows. -/
theorem results_length : results.length ≤ maxCandidates := by
  -- Hydration never adds a hit to the assembled list.
  rw [served]
  exact (List.length_filterMap_le _ _).trans assembled_length

end Parts

/-- A search over a consistent store returns a well-shaped list. -/
theorem search_wellShaped (reads : session.Reads store)
    (reading : Reading session queryText perChannelK) (order : SetOrder)
    (topK pageWindow maxCandidates : Nat) :
    ∃ results, hybridSearch order session queryText topK perChannelK pageWindow maxCandidates =
      .ok results ∧ reading.WellShaped store order topK pageWindow maxCandidates results := by
  -- Each part of the shape is read off the assembled list, hit by hit.
  obtain ⟨neighborRows, loaded, stored, distinct⟩ :
      ∃ neighborRows, reading.neighborRows order topK pageWindow = .ok neighborRows ∧ _ ∧ _ :=
    neighborRows_ok reads
  rw [hybridSearch_eq reading, loaded]
  refine ⟨_, rfl, results_nodup rfl distinct, results_length rfl, ?_, ?_, _, _,
    hydrate_append _ _, ?_, ?_, ?_⟩
  -- Every hit is hydrated from a row of the store.
  · intro result member
    obtain ⟨hit, _, row, inStore, _, _, rfl⟩ := mem_hydrate reads stored member
    exact ⟨row, inStore, rfl, rfl⟩
  -- A returned hit has a row in the store, so a missing one is not returned.
  · intro hit _ missing returned
    obtain ⟨result, member, same⟩ := List.mem_map.mp returned
    obtain ⟨hit, _, row, inStore, _, _, rfl⟩ := mem_hydrate reads stored member
    exact missing (same ▸ List.mem_map_of_mem inStore)
  · intro result member
    -- The front comes from the winners, which are base hits.
    obtain ⟨hit, winner, row, _, id, _, rfl⟩ := mem_hydrate reads stored member
    rw [rowToRetrieved_chunkId, id]
    exact List.mem_map_of_mem (mem_base_of_mem_winners winner)
  -- A base hit of the store was loaded with the pool, so it is hydrated.
  · intro fits hit seeded inStore
    have pooled := (fused_perm.map FusedHit.chunkId).mem_iff.mp
      (List.mem_map_of_mem (List.mem_of_mem_take seeded))
    exact base_covered fits seeded ((rowOf_isSome_iff reads pooled).mpr inStore)
  · intro result member
    -- The back comes from the appended neighbours.
    obtain ⟨hit, appended, row, _, id, found, rfl⟩ := mem_hydrate reads stored member
    refine ⟨?_, isNeighborPage_of_appended reads loaded appended found⟩
    rw [rowToRetrieved_chunkId, id]
    exact (appended_mem (List.mem_map_of_mem appended)).2

/-- The documents of the two manuals come back in a well-shaped list. -/
theorem search_wellShaped_two_manuals :
    ∃ results, hybridSearch .textual (twoManuals.session [(1, 0.9), (2, 0.8)] []) lyrikQuestion 5
      20 1 6 = .ok results ∧
        (twoManuals.reading [(1, 0.9), (2, 0.8)] [] lyrikQuestion 20).WellShaped twoManuals
          .textual 5 1 6 results :=
  -- One channel finds a page of each manual.
  search_wellShaped (twoManuals.session_reads _ _) _ .textual 5 1 6

section Coverage

variable (reads : session.Reads store) {documentId : Int}

/-- The leading document is a PDF of the store. -/
def IsPdfDocument (store : Store) (documentId : Int) : Prop :=
  ∃ document ∈ store.documents, document.id = documentId ∧ document.sourceType = .pdf

/-- A base winner of a known document is returned as a page of that document. -/
theorem page_of_winner {hit : FusedHit} {assembled : List FusedHit} (kept : hit ∈ assembled)
    (owned : ofDocument reading.metas documentId hit) :
    ∃ result ∈ hydrate reading.rows neighborRows assembled, result.documentId = documentId := by
  -- The hit's document is known from its row, and the row is what is returned.
  obtain ⟨known, facts, rfl⟩ := ofDocument_iff.mp owned
  obtain ⟨row, found, rfl⟩ := metas_eq_some.mp facts
  refine ⟨rowToRetrieved row hit.score, List.mem_filterMap.mpr ⟨hit, kept, ?_⟩, rfl⟩
  simp [hydratedRow, found]

include reads

/-- A hydrated pool hit has its facts from the same row. -/
theorem metas_of_hydratedRow (stored : ∀ row ∈ neighborRows, row ∈ store.chunkRows)
    {row : ChunkRow} (pooled : chunkId ∈ reading.pool.map FusedHit.chunkId)
    (found : hydratedRow reading.rows neighborRows chunkId = some row) :
    reading.metas chunkId = some row.toMeta := by
  -- The store has the chunk, so its row was loaded with the pool.
  have inStore : chunkId ∈ store.chunkRows.map ChunkRow.chunkId :=
    List.mem_map.mpr ⟨row, hydratedRow_mem reads stored found, hydratedRow_id found⟩
  obtain ⟨held, rowFound⟩ :=
    Option.isSome_iff_exists.mp ((rowOf_isSome_iff reads pooled).mpr inStore)
  have same : held = row := by simpa [hydratedRow, rowFound] using found
  exact metas_eq_some.mpr ⟨held, rowFound, congrArg _ same⟩

/-- A page of a PDF document is known to be a PDF page. -/
theorem isPdf_of_document {known : ChunkMeta} (facts : reading.metas chunkId = some known)
    (isPdf : IsPdfDocument store known.documentId) : known.isPdf = true := by
  -- The facts and the source type come from the row, and the document agrees with the row.
  obtain ⟨row, found, rfl⟩ := metas_eq_some.mp facts
  obtain ⟨document, stored, id, pdf⟩ := isPdf
  have inStore := mem_chunkRows_of_rows reads (rowOf_spec found).1
  have sourceType := Store.sourceType_of_document stored inStore id
  simp [ChunkRow.toMeta, sourceType, pdf]

/-- The anchor page itself is appended when there is room and it is no base page. -/
theorem appended_ne_nil {leader : FusedHit} {leaderMeta : ChunkMeta}
    (loaded : reading.neighborRows order topK pageWindow = .ok neighborRows)
    (expanded : reading.expansion order topK pageWindow = some (leader, leaderMeta))
    (outside : leader.chunkId ∉ (reading.base order topK).map FusedHit.chunkId)
    (room : (reading.base order topK).length < maxCandidates) :
    reading.appended order topK pageWindow maxCandidates neighborRows ≠ [] := by
  -- The anchor is a neighbour of itself, and no winner stands in its way.
  obtain ⟨rows, alsoLoaded, same⟩ := neighborRows_perm reads expanded
  obtain rfl := Except.ok.inj (loaded.symm.trans alsoLoaded)
  obtain ⟨_, known, _⟩ := expansion_spec expanded
  obtain ⟨anchorRow, found, rfl⟩ := metas_eq_some.mp known
  -- The anchor lies in its own window.
  have inWindow : anchorRow ∈ neighborRows := by
    refine same.mem_iff.mpr (List.mem_filter.mpr
      ⟨mem_chunkRows_of_rows reads (rowOf_spec found).1, decide_eq_true ⟨rfl, ?_, ?_⟩⟩) <;>
    simp [ChunkRow.toMeta]
  simp only [appended, expanded]
  refine appendedNeighbors_ne_nil (List.mem_map_of_mem inWindow) ?_ (by omega)
  rw [winners_of_room room, (orderedBase_perm.map _).mem_iff]
  change anchorRow.chunkId ∉ _
  rwa [(rowOf_spec found).2]

/-- An appended neighbour is returned as a page of the leading document. -/
theorem page_of_appended (loaded : reading.neighborRows order topK pageWindow = .ok neighborRows)
    (leading : reading.leadingDocument order = some documentId) {hit : FusedHit}
    {assembled : List FusedHit} (kept : hit ∈ assembled)
    (appended : hit ∈ reading.appended order topK pageWindow maxCandidates neighborRows) :
    ∃ result ∈ hydrate reading.rows neighborRows assembled, result.documentId = documentId := by
  -- The neighbour row is at hand even when the pool has none.
  have hydrated : (hydratedRow reading.rows neighborRows hit.chunkId).isSome := by
    unfold hydratedRow
    split
    · rfl
    · exact rowOf_isSome.mpr (appended_mem (List.mem_map_of_mem appended)).1
  obtain ⟨row, found⟩ := Option.isSome_iff_exists.mp hydrated
  obtain ⟨_, leaderMeta, _, alsoLeading, same, _, _⟩ :=
    isNeighborPage_of_appended reads loaded appended found
  obtain rfl := Option.some.inj (leading.symm.trans alsoLeading)
  exact ⟨_, List.mem_filterMap.mpr ⟨hit, kept, by rw [found]; rfl⟩, same⟩

/-- A PDF leading document is expanded in a positive window. -/
theorem expansion_of_pdf (window : 0 < pageWindow)
    (leading : reading.leadingDocument order = some documentId)
    (isPdf : IsPdfDocument store documentId) :
    ∃ leader leaderMeta, reading.expansion order topK pageWindow = some (leader, leaderMeta) := by
  -- The leading document has a hit to anchor at, and its pages are PDF pages.
  have anchored :
      (leaderHit (reading.base order topK) (reading.fused order) reading.metas).isSome :=
    leaderHit_isSome leading
  obtain ⟨leader, chosen⟩ := Option.isSome_iff_exists.mp anchored
  obtain ⟨_, alsoLeading, owned, _⟩ := leaderHit_spec chosen
  obtain rfl := Option.some.inj (leading.symm.trans alsoLeading)
  obtain ⟨known, facts, rfl⟩ := ofDocument_iff.mp owned
  refine ⟨leader, known, ?_⟩
  simp [expansion, expandedLeader, chosen, facts, isPdf_of_document reads facts isPdf, window]

end Coverage

/-- The leading document is covered by a base winner, or by a neighbour when there is room. -/
theorem covers_leading_iff (reads : session.Reads store)
    (reading : Reading session queryText perChannelK) (order : SetOrder)
    (topK pageWindow maxCandidates : Nat) (window : 0 < pageWindow) {documentId : Int}
    (leading : reading.leadingDocument order = some documentId) {results : List RetrievedChunk}
    (returned : hybridSearch order session queryText topK perChannelK pageWindow maxCandidates =
      .ok results) :
    (∃ result ∈ results, result.documentId = documentId) ↔
      (∃ hit ∈ reading.winners order topK pageWindow maxCandidates,
        ofDocument reading.metas documentId hit) ∨
      ((reading.base order topK).length < maxCandidates ∧ IsPdfDocument store documentId) := by
  obtain ⟨neighborRows, loaded, rfl⟩ := results_of_hybridSearch reading returned
  obtain ⟨rows, alsoLoaded, stored, _⟩ :
      ∃ rows, reading.neighborRows order topK pageWindow = .ok rows ∧ _ ∧ _ :=
    neighborRows_ok reads
  obtain rfl := Except.ok.inj (loaded.symm.trans alsoLoaded)
  constructor
  · intro covered
    obtain ⟨result, member, rfl⟩ := covered
    obtain ⟨hit, assembled, row, inStore, id, found, rfl⟩ := mem_hydrate reads stored member
    rcases List.mem_append.mp assembled with winner | appended
    · -- A returned winner has its facts from the row it was hydrated from.
      have pooled := (fused_perm.map FusedHit.chunkId).mem_iff.mp
        (List.mem_map_of_mem (List.mem_of_mem_take (mem_base_of_mem_winners winner)))
      exact Or.inl ⟨hit, winner,
        ofDocument_iff.mpr ⟨_, metas_of_hydratedRow reads stored pooled found, rfl⟩⟩
    -- A returned neighbour shows that there was room, and that the document is a PDF.
    · refine Or.inr ⟨?_, ?_⟩
      · by_contra full
        simp [appended_of_full (not_lt.mp full)] at appended
      · obtain ⟨_, _, _, _, _, pdf, _⟩ := isNeighborPage_of_appended reads loaded appended found
        obtain ⟨document, kept, owner, sourceType⟩ := Store.document_of_row inStore
        exact ⟨document, kept, owner, sourceType.trans pdf⟩
  · intro reason
    rcases reason with ⟨hit, winner, owned⟩ | ⟨room, isPdf⟩
    · exact page_of_winner (List.mem_append_left _ winner) owned
    -- With room, the anchor of the expansion is itself a winner or appended.
    · obtain ⟨leader, leaderMeta, expanded⟩ := expansion_of_pdf reads window leading isPdf
      obtain ⟨alsoLeading, known, _⟩ := expansion_spec expanded
      by_cases seeded : leader.chunkId ∈ (reading.base order topK).map FusedHit.chunkId
      · -- With room every base hit is a winner, the anchor included.
        rw [← (orderedBase_perm.map _).mem_iff, ← winners_of_room room] at seeded
        obtain ⟨hit, winner, same⟩ := List.mem_map.mp seeded
        refine page_of_winner (List.mem_append_left _ winner)
          (ofDocument_iff.mpr ⟨leaderMeta, ?_, ?_⟩)
        · rw [same, known]
        · exact Option.some.inj (alsoLeading.symm.trans leading)
      · obtain ⟨hit, appended⟩ :=
          List.exists_mem_of_ne_nil _ (appended_ne_nil reads loaded expanded seeded room)
        exact page_of_appended reads loaded leading (List.mem_append_right _ appended) appended

/-- The equivalence for the two manuals, with room for the neighbours of a single base hit. -/
theorem covers_leading_iff_two_manuals :
    let reading := twoManuals.reading [(1, 0.9), (2, 0.8), (3, 0.7)] [] springQuestion 20
    (∃ result ∈ twoManualsResults springQuestion [(1, 0.9), (2, 0.8), (3, 0.7)] [] 1 1 6,
        result.documentId = 2) ↔
      (∃ hit ∈ reading.winners .textual 1 1 6, ofDocument reading.metas 2 hit) ∨
      ((reading.base .textual 1).length < 6 ∧ IsPdfDocument twoManuals 2) :=
  -- The leading manual is cut from the base of one hit and comes back with its pages.
  covers_leading_iff (twoManuals.session_reads _ _)
    (twoManuals.reading [(1, 0.9), (2, 0.8), (3, 0.7)] [] springQuestion 20) .textual 1 1 6
    (by decide) (by decide +kernel) (by decide +kernel)

/-- A leading document can be missing from the result when the base fills the budget. -/
theorem not_covers_leading :
    ¬ ∀ (order : SetOrder) (session : Session) (store : Store) (queryText : String)
      (perChannelK topK pageWindow maxCandidates : Nat), session.Reads store →
      1 ≤ topK → topK ≤ 10 → 1 ≤ pageWindow → pageWindow ≤ 3 →
      1 ≤ maxCandidates → maxCandidates ≤ 10 →
      ∀ (reading : Reading session queryText perChannelK) (documentId : Int)
        (results : List RetrievedChunk), reading.leadingDocument order = some documentId →
        hybridSearch order session queryText topK perChannelK pageWindow maxCandidates =
          .ok results →
        ∃ result ∈ results, result.documentId = documentId := by
  intro always
  -- Two pages behind the best hit outweigh it, but only the best hit fits.
  have covered := always .textual _ twoManuals springQuestion 20 1 1 1
    (twoManuals.session_reads [(1, 0.9), (2, 0.8), (3, 0.7)] []) (by decide) (by decide)
    (by decide) (by decide) (by decide) (by decide)
    (twoManuals.reading [(1, 0.9), (2, 0.8), (3, 0.7)] [] springQuestion 20) 2
    (twoManualsResults springQuestion [(1, 0.9), (2, 0.8), (3, 0.7)] [] 1 1 1)
    (by decide +kernel) (by decide +kernel)
  exact absurd covered (by decide +kernel)

end Reading

end TorqueFinder
