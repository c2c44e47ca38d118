import TorqueFinder.Retrieval.ResultShape

/-! A search sees the stored rows as a set: the order in which the database lists them is lost. -/

namespace TorqueFinder

open Ranking

/-- Two sessions embed alike and find the same hits. -/
structure Session.FindsAs (session other : Session) : Prop where
  embedQuery : session.embedQuery = other.embedQuery
  keywordQuery : session.keywordQuery = other.keywordQuery
  vectorQuery : session.vectorQuery = other.vectorQuery

section Rows

variable {rows others neighborRows otherNeighbors : List ChunkRow}

/-- A dictionary of rows does not depend on the order of the rows. -/
theorem rowOf_perm (same : rows.Perm others) (distinct : (rows.map ChunkRow.chunkId).Nodup) :
    rowOf rows = rowOf others := by
  -- No two rows are written to one key, so it does not matter which was written last.
  funext chunkId
  have turned : rows.reverse.Perm others.reverse :=
    (List.reverse_perm rows).trans (same.trans (List.reverse_perm others).symm)
  have once : (rows.reverse.map ChunkRow.chunkId).Nodup :=
    ((List.reverse_perm rows).map _).nodup_iff.mpr distinct
  exact Table.find?_perm once turned chunkId fun _ => of_decide_eq_true

/-- Hydration looks rows up and does not see their order. -/
theorem hydrate_congr (pooled : rowOf rows = rowOf others)
    (near : rowOf neighborRows = rowOf otherNeighbors) (assembled : List FusedHit) :
    hydrate rows neighborRows assembled = hydrate others otherNeighbors assembled := by
  -- Only the lookups enter.
  simp only [hydrate, hydratedRow, pooled, near]

/-- Neighbour rows rank alike in any order, since no two of them are equally close. -/
theorem orderedNeighbors_perm (winners : List FusedHit) (anchorOrdinal : Int)
    (same : rows.Perm others)
    (ordinals : ∀ first ∈ rows, ∀ second ∈ rows, first.ordinal = second.ordinal → first = second) :
    orderedNeighbors winners (rows.map ChunkRow.toNeighborMeta) anchorOrdinal =
      orderedNeighbors winners (others.map ChunkRow.toNeighborMeta) anchorOrdinal := by
  refine sortAsc_of_perm _ ((same.map _).filter _) ?_
  intro left leftInside right rightInside equal
  obtain ⟨first, firstRow, rfl⟩ := List.mem_map.mp (List.mem_of_mem_filter leftInside)
  obtain ⟨second, secondRow, rfl⟩ := List.mem_map.mp (List.mem_of_mem_filter rightInside)
  -- The ordinal is the second half of the key.
  have ordinal : first.ordinal = second.ordinal := congrArg (fun key => (ofLex key).2) equal
  rw [ordinals first firstRow second secondRow ordinal]

end Rows

section Stages

variable {session other : Session} {queryText : String} {perChannelK : Nat}
  {first : Reading session queryText perChannelK} {second : Reading other queryText perChannelK}
  {order : SetOrder} {topK pageWindow maxCandidates : Nat}

/-- The reranked pools agree when the pools and the rows of their hits do. -/
theorem Reading.fused_congr (pools : first.pool = second.pool)
    (rows : rowOf first.rows = rowOf second.rows) : first.fused order = second.fused order := by
  -- The titles and the facets are looked up by chunk.
  have titles : titlesOf first.rows = titlesOf second.rows := by
    funext chunkId
    simp only [titlesOf, rows]
  have facets : facetsOf first.rows = facetsOf second.rows := by
    funext chunkId
    simp only [facetsOf, rows]
  simp only [Reading.fused, rerankedPool, pools, titles, facets]

/-- The expansion facts agree when the rows do. -/
theorem Reading.metas_congr (rows : rowOf first.rows = rowOf second.rows) :
    first.metas = second.metas := by
  -- The metadata are looked up by chunk.
  funext chunkId
  simp only [Reading.metas, metasOf, rows]

/-- The anchors agree when the reranked pools and the expansion facts do. -/
theorem Reading.expansion_congr (fused : first.fused order = second.fused order)
    (metas : first.metas = second.metas) :
    first.expansion order topK pageWindow = second.expansion order topK pageWindow := by
  -- The leader is chosen from the base and its metadata.
  simp only [Reading.expansion, Reading.base, fused, metas]

/-- The base winners agree when the reranked pools and the expansion facts do. -/
theorem Reading.winners_congr (fused : first.fused order = second.fused order)
    (metas : first.metas = second.metas) :
    first.winners order topK pageWindow maxCandidates =
      second.winners order topK pageWindow maxCandidates := by
  -- Both readings expand the same leader, if any.
  have expansions : first.expansion order topK pageWindow =
      second.expansion order topK pageWindow := Reading.expansion_congr fused metas
  simp only [Reading.winners, Reading.orderedBase, Reading.base, expansions, fused, metas]

variable {store current : Store}

/-- The rows of one document with one ordinal are one row. -/
theorem Store.eq_of_ordinal {documentId low high : Int} {row partner : ChunkRow}
    (inside : row ∈ store.rowsBetween documentId low high)
    (also : partner ∈ store.rowsBetween documentId low high)
    (ordinal : row.ordinal = partner.ordinal) : row = partner := by
  -- The number of a page is unique in its document.
  obtain ⟨stored, within⟩ := List.mem_filter.mp inside
  obtain ⟨held, between⟩ := List.mem_filter.mp also
  have owner : row.documentId = documentId := (of_decide_eq_true within).1
  have same : partner.documentId = documentId := (of_decide_eq_true between).1
  exact Table.eq_of_key store.chunkRows_nodup_pages stored held
    (Prod.ext (owner.trans same.symm) ordinal)

/-- Readings with the same pool return the same hits from stores with the same rows. -/
theorem Reading.hybridSearch_congr (reads : session.Reads store) (others : other.Reads current)
    (sameRows : store.chunkRows.Perm current.chunkRows) (pools : first.pool = second.pool) :
    hybridSearch order session queryText topK perChannelK pageWindow maxCandidates =
      hybridSearch order other queryText topK perChannelK pageWindow maxCandidates := by
  have loaded : first.rows.Perm second.rows :=
    (first.rows_perm reads).trans ((sameRows.filter _).trans (pools ▸ (rows_perm others).symm))
  have distinct : (first.rows.map ChunkRow.chunkId).Nodup :=
    ((rows_perm reads).map _).nodup_iff.mpr (Table.nodup_filter store.chunkRows_nodup_ids _)
  -- The ids are distinct, so every lookup finds the same row.
  have rows := rowOf_perm loaded distinct
  have fused : first.fused order = second.fused order := Reading.fused_congr pools rows
  have metas := Reading.metas_congr rows
  have expansions : first.expansion order topK pageWindow =
      second.expansion order topK pageWindow := Reading.expansion_congr fused metas
  have winners : first.winners order topK pageWindow maxCandidates =
      second.winners order topK pageWindow maxCandidates := Reading.winners_congr fused metas
  rw [hybridSearch_eq first, hybridSearch_eq second, winners]
  cases expanded : first.expansion order topK pageWindow with
  | none =>
    -- Nothing is loaded beside the pool.
    simp only [Reading.neighborRows, Reading.appended, ← expansions, expanded, Except.map,
      hydrate_congr rows rfl]
  | some found =>
    obtain ⟨leader, leaderMeta⟩ := found
    obtain ⟨neighborRows, around, same⟩ := neighborRows_perm reads expanded
    obtain ⟨otherNeighbors, aroundOther, sameOther⟩ :=
      neighborRows_perm others (expansions ▸ expanded)
    -- Both sessions load the same neighbours.
    have near : neighborRows.Perm otherNeighbors :=
      same.trans ((sameRows.filter _).trans sameOther.symm)
    have nearRows : rowOf neighborRows = rowOf otherNeighbors :=
      rowOf_perm near ((same.map _).nodup_iff.mpr (store.rowsBetween_nodup _ _ _))
    have ordinals : ∀ row ∈ neighborRows, ∀ partner ∈ neighborRows,
        row.ordinal = partner.ordinal → row = partner :=
      fun row inside partner also =>
        Store.eq_of_ordinal (same.mem_iff.mp inside) (same.mem_iff.mp also)
    have ranked := orderedNeighbors_perm (second.winners order topK pageWindow maxCandidates)
      leaderMeta.ordinal near ordinals
    simp only [around, aroundOther, Except.map, Reading.appended, ← expansions, expanded,
      appendedNeighbors, winners, ranked, Reading.base, fused, hydrate_congr rows nearRows]

/-- When the three calls before it succeed, the rows of the pool are read as well. -/
theorem Session.Reads.exists_reading (reads : session.Reads store) {embedding : Embedding}
    {keywordHits vectorHits : Channel} (embedded : session.embedQuery queryText = .ok embedding)
    (keyword : keywordSearch session queryText perChannelK = .ok keywordHits)
    (vector : vectorSearch session embedding perChannelK = .ok vectorHits) :
    ∃ reading : Reading session queryText perChannelK,
      reading.pool = reciprocalRankFusion [keywordHits, vectorHits] := by
  obtain ⟨rows, loaded, -⟩ := reads.chunks
    ((reciprocalRankFusion [keywordHits, vectorHits]).map FusedHit.chunkId)
  -- No rows are loaded for an empty pool.
  by_cases empty : reciprocalRankFusion [keywordHits, vectorHits] = []
  · exact ⟨⟨embedding, keywordHits, vectorHits, [], embedded, keyword, vector,
      fun filled => absurd empty filled, fun _ => rfl⟩, rfl⟩
  · exact ⟨⟨embedding, keywordHits, vectorHits, rows, embedded, keyword, vector,
      fun _ => loaded, fun nothing => absurd nothing empty⟩, rfl⟩

end Stages

/-- What a search returns depends on which rows are stored, not on the order they are listed in. -/
theorem hybridSearch_row_order {session other : Session} {store current : Store}
    (reads : session.Reads store) (others : other.Reads current) (agree : session.FindsAs other)
    (sameRows : store.chunkRows.Perm current.chunkRows) (order : SetOrder) (queryText : String)
    (topK perChannelK pageWindow maxCandidates : Nat) :
    hybridSearch order session queryText topK perChannelK pageWindow maxCandidates =
      hybridSearch order other queryText topK perChannelK pageWindow maxCandidates := by
  have embedOther : other.embedQuery queryText = session.embedQuery queryText := by
    rw [agree.embedQuery]
  -- The two channels answer alike.
  have keywordOther : keywordSearch other queryText perChannelK =
      keywordSearch session queryText perChannelK := by
    simp only [keywordSearch, agree.keywordQuery]
  have vectorOther : ∀ embedding, vectorSearch other embedding perChannelK =
      vectorSearch session embedding perChannelK := by
    intro embedding
    simp only [vectorSearch, agree.vectorQuery]
  -- A call that fails in one session fails in the other, before any row is read.
  cases embedded : session.embedQuery queryText with
  | error failure => simp [hybridSearch, embedOther, embedded, bind, Except.bind]
  | ok embedding =>
    cases keyword : keywordSearch session queryText perChannelK with
    | error failure =>
      simp [hybridSearch, embedOther, embedded, keywordOther, keyword, bind, Except.bind]
    | ok keywordHits =>
      cases vector : vectorSearch session embedding perChannelK with
      | error failure =>
        simp [hybridSearch, embedOther, embedded, keywordOther, keyword, vectorOther, vector, bind,
          Except.bind]
      | ok vectorHits =>
        obtain ⟨first, pool⟩ := reads.exists_reading embedded keyword vector
        obtain ⟨second, samePool⟩ := others.exists_reading (embedOther.trans embedded)
          (keywordOther.trans keyword) ((vectorOther embedding).trans vector)
        exact Reading.hybridSearch_congr reads others sameRows (pool.trans samePool.symm)

/-- A session of a store that lists the rows from the last to the first. -/
def Store.reversedSession (store : Store) (keywordHits vectorHits : Channel) : Session :=
  -- The rows come back in the opposite order.
  { store.session keywordHits vectorHits with
    loadChunks := fun chunkIds => .ok (store.rowsWithIds chunkIds).reverse
    loadDocNeighbors := fun documentId low high =>
      .ok (store.rowsBetween documentId low high).reverse }

/-- That session reads the store as well. -/
theorem Store.reversedSession_reads (store : Store) (keywordHits vectorHits : Channel) :
    (store.reversedSession keywordHits vectorHits).Reads store where
  -- A reversed list has the same rows.
  chunks _ := ⟨_, rfl, List.reverse_perm _⟩
  neighbors _ _ _ := ⟨_, rfl, List.reverse_perm _⟩

/-- The two manuals are found in the same order whichever way their rows are listed. -/
theorem hybridSearch_row_order_two_manuals :
    hybridSearch .textual (twoManuals.reversedSession [(1, 0.9), (2, 0.8)] []) lyrikQuestion 5 20
        1 6 =
      hybridSearch .textual (twoManuals.session [(1, 0.9), (2, 0.8)] []) lyrikQuestion 5 20 1 6 :=
  -- The two sessions answer everything else alike.
  hybridSearch_row_order (twoManuals.reversedSession_reads _ _) (twoManuals.session_reads _ _)
    ⟨rfl, rfl, rfl⟩ (List.Perm.refl _) .textual lyrikQuestion 5 20 1 6

end TorqueFinder
