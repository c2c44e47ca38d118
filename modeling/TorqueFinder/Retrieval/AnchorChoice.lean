import TorqueFinder.Retrieval.StoreSession

/-! The reranks keep each document in raw score order, so the anchor is its document's best page. -/

namespace TorqueFinder

open Ranking

/-- All rows of one document carry the same title, family and brand. -/
def UniformDocuments (rows : List ChunkRow) : Prop :=
  -- The join repeats the columns of the document in each of its rows.
  ∀ first ∈ rows, ∀ second ∈ rows, first.documentId = second.documentId →
    first.documentTitle = second.documentTitle ∧ first.productFamily = second.productFamily ∧
      first.brand = second.brand

/-- The rows are a finite list. -/
instance (rows : List ChunkRow) : Decidable (UniformDocuments rows) :=
  inferInstanceAs (Decidable (∀ first ∈ rows, _))

/-- The rows a store is asked for by id are uniform, since each joins the one owning document. -/
theorem Store.rowsWithIds_uniform (store : Store) (chunkIds : List Int) :
    UniformDocuments (store.rowsWithIds chunkIds) := by
  intro first left second right same
  -- Both rows were joined with the document found under their common document id.
  obtain ⟨chunk, _, joined⟩ := List.mem_filterMap.mp (List.mem_of_mem_filter left)
  obtain ⟨other, _, alsoJoined⟩ := List.mem_filterMap.mp (List.mem_of_mem_filter right)
  obtain ⟨document, found, rfl⟩ := Option.map_eq_some_iff.mp joined
  obtain ⟨owner, alsoFound, rfl⟩ := Option.map_eq_some_iff.mp alsoJoined
  have ids : chunk.documentId = other.documentId := same
  rw [ids, alsoFound] at found
  obtain rfl := Option.some.inj found
  exact ⟨rfl, rfl, rfl⟩

section Reranks

variable {rows : List ChunkRow} {documentId : Int} {first second : FusedHit}
  {order : SetOrder} {queryText : String} {fused : List FusedHit}

/-- Two hits of one document are looked up under the same title and facet. -/
theorem UniformDocuments.same (uniform : UniformDocuments rows)
    (left : ofDocument (metasOf rows) documentId first)
    (right : ofDocument (metasOf rows) documentId second) :
    titlesOf rows first.chunkId = titlesOf rows second.chunkId ∧
      facetsOf rows first.chunkId = facetsOf rows second.chunkId := by
  obtain ⟨known, leftFacts, leftOwner⟩ := ofDocument_iff.mp left
  obtain ⟨other, rightFacts, rightOwner⟩ := ofDocument_iff.mp right
  obtain ⟨row, found, rfl⟩ := Option.map_eq_some_iff.mp leftFacts
  obtain ⟨otherRow, alsoFound, rfl⟩ := Option.map_eq_some_iff.mp rightFacts
  -- The facts of a hit name the document of the row it was read from.
  have owners : row.documentId = otherRow.documentId := leftOwner.trans rightOwner.symm
  obtain ⟨title, family, brand⟩ :=
    uniform row (rowOf_spec found).1 otherRow (rowOf_spec alsoFound).1 owners
  simp [titlesOf, facetsOf, found, alsoFound, title, family, brand]

/-- The title pass keeps the hits of one document in a descending order they already have. -/
theorem rerankByTitle_filter (uniform : UniformDocuments rows)
    (ordered : (fused.filter (ofDocument (metasOf rows) documentId)).Pairwise
      fun first second => second.score ≤ first.score) :
    (rerankByTitle queryText fused (titlesOf rows)).filter (ofDocument (metasOf rows) documentId) =
      fused.filter (ofDocument (metasOf rows) documentId) := by
  unfold rerankByTitle
  split
  · rfl
  · -- The boost is read off the title, which is that of the document.
    refine filter_sortDesc_of_constant ordered ?_
    intro first left second right
    have titles :=
      (uniform.same (List.mem_filter.mp left).2 (List.mem_filter.mp right).2).1
    rw [hitTitleBoost, hitTitleBoost, titles]

/-- The product pass keeps the hits of one document in a descending order they already have. -/
theorem rerankByProduct_filter (uniform : UniformDocuments rows)
    (ordered : (fused.filter (ofDocument (metasOf rows) documentId)).Pairwise
      fun first second => second.score ≤ first.score) :
    (rerankByProduct order queryText fused (facetsOf rows)).filter
        (ofDocument (metasOf rows) documentId) =
      fused.filter (ofDocument (metasOf rows) documentId) := by
  simp only [rerankByProduct]
  split
  · rfl
  · -- The delta is read off the facet, which is that of the document.
    refine filter_sortDesc_of_constant ordered ?_
    intro first left second right
    have facets :=
      (uniform.same (List.mem_filter.mp left).2 (List.mem_filter.mp right).2).2
    rw [hitProductDelta, hitProductDelta, facets]

end Reranks

section Best

variable {list : List FusedHit} {test : FusedHit → Bool} {leader : FusedHit}

/-- The head of a list in descending score order has the maximal score. -/
theorem score_le_head (ordered : list.Pairwise fun first second => second.score ≤ first.score)
    (front : list.head? = some leader) : ∀ hit ∈ list, hit.score ≤ leader.score := by
  -- In a descending list nothing behind the head is larger.
  obtain ⟨rest, rfl⟩ := List.head?_eq_some_iff.mp front
  intro hit member
  rcases List.mem_cons.mp member with rfl | later
  · exact le_rfl
  · exact (List.pairwise_cons.mp ordered).1 hit later

/-- The chosen leader chunk has the maximal score of the hits it was chosen from. -/
theorem score_le_leader (chosen : selectLeaderChunk list = some leader) :
    ∀ hit ∈ list, hit.score ≤ leader.score := by
  intro hit member
  -- The key orders by the negated score before it looks at the id.
  have least := List.le_of_mem_argmin member chosen
  rcases Prod.Lex.le_iff.mp least with smaller | tied
  · exact (neg_lt_neg_iff.mp smaller).le
  · exact (neg_inj.mp tied.1).ge

/-- When a passing hit is in a prefix, so is the first passing hit of the whole list. -/
theorem head_filter_take {count : Nat} (some : (list.take count).filter test ≠ []) :
    ((list.take count).filter test).head? = (list.filter test).head? := by
  -- The passing hits of a prefix are a prefix of the passing hits.
  obtain ⟨rest, split⟩ := (List.take_prefix count list).filter test
  rw [← split, List.head?_append_of_ne_nil _ some]

end Best

namespace Reading

variable {session : Session} {queryText : String} {perChannelK : Nat}
  (reading : Reading session queryText perChannelK) (order : SetOrder) (topK : Nat)

/-- The pool after the title pass alone. -/
def titled : List FusedHit := rerankByTitle queryText reading.pool (titlesOf reading.rows)

/-- The anchor a search chooses before it decides whether to expand. -/
def anchor : Option FusedHit :=
  leaderHit (reading.base order topK) (reading.fused order) reading.metas

variable {reading order topK} {documentId : Int} {leader : FusedHit}

/-- The pool is in descending score order. -/
theorem pool_pairwise : reading.pool.Pairwise fun first second => second.score ≤ first.score :=
  sortDesc_pairwise FusedHit.score _

/-- The title pass keeps the hits of each document in pool order. -/
theorem titled_filter (uniform : UniformDocuments reading.rows) (documentId : Int) :
    reading.titled.filter (ofDocument reading.metas documentId) =
      reading.pool.filter (ofDocument reading.metas documentId) :=
  -- The pages of one document share a title, so their boost is the same.
  rerankByTitle_filter uniform (pool_pairwise.filter _)

/-- Both passes together keep the hits of each document in pool order. -/
theorem fused_filter (uniform : UniformDocuments reading.rows) (documentId : Int) :
    (reading.fused order).filter (ofDocument reading.metas documentId) =
      reading.pool.filter (ofDocument reading.metas documentId) := by
  -- What the title pass leaves of a document still descends.
  have kept := titled_filter uniform documentId
  rw [← kept]
  refine rerankByProduct_filter uniform ?_
  change (reading.titled.filter (ofDocument reading.metas documentId)).Pairwise _
  rw [kept]
  exact pool_pairwise.filter _

/-- The anchor of a leading document has the maximal score among the pool hits of the document. -/
theorem score_le_anchor (uniform : UniformDocuments reading.rows)
    (leading : reading.leadingDocument order = some documentId)
    (chosen : reading.anchor order topK = some leader) :
    ∀ hit ∈ reading.pool, ofDocument reading.metas documentId hit → hit.score ≤ leader.score := by
  have owned : (reading.fused order).filter (ofDocument reading.metas documentId) =
      reading.pool.filter (ofDocument reading.metas documentId) := fused_filter uniform documentId
  have descending : (reading.pool.filter (ofDocument reading.metas documentId)).Pairwise
      fun first second => second.score ≤ first.score := pool_pairwise.filter _
  intro hit pooled owner
  have inside := List.mem_filter.mpr ⟨pooled, owner⟩
  rw [leadingDocument] at leading
  rw [anchor, leaderHit, leading] at chosen
  dsimp only at chosen
  split at chosen
  · -- The base holds the document's first pool hit, which the chosen hit does not fall below.
    rename_i best selected
    obtain rfl := Option.some.inj chosen
    have some : (reading.base order topK).filter (ofDocument reading.metas documentId) ≠ [] :=
      List.ne_nil_of_mem (selectLeaderChunk_mem selected)
    have front := head_filter_take some
    rw [owned] at front
    obtain ⟨top, rest, shape⟩ := List.exists_cons_of_ne_nil some
    have highest := score_le_leader selected top (by simp [shape])
    rw [base] at shape
    rw [shape, List.head?_cons] at front
    exact (score_le_head descending front.symm hit inside).trans highest
  · -- Otherwise the anchor is the document's first pool hit itself.
    rw [← List.head?_filter, owned] at chosen
    exact score_le_head descending chosen hit inside

/-- The anchor comes from the base unless the leading document has no hit there. -/
theorem anchor_mem_base (leading : reading.leadingDocument order = some documentId)
    (chosen : reading.anchor order topK = some leader) :
    leader ∈ reading.base order topK ∨
      ∀ hit ∈ reading.base order topK, ofDocument reading.metas documentId hit = false := by
  rw [leadingDocument] at leading
  rw [anchor, leaderHit, leading] at chosen
  dsimp only at chosen
  split at chosen
  · rename_i best selected
    obtain rfl := Option.some.inj chosen
    exact Or.inl (List.mem_filter.mp (selectLeaderChunk_mem selected)).1
  · -- The least of a list is only missing when the list is empty.
    rename_i missing
    have none := List.filter_eq_nil_iff.mp (List.argmin_eq_none.mp missing)
    exact Or.inr fun hit member => by simpa using none hit member

/--
Each pass keeps every document in raw score order, and the anchor is the leading document's best
pool hit, taken from the base when the document has a hit there.
-/
theorem anchor_is_best (reading : Reading session queryText perChannelK) (order : SetOrder)
    (uniform : UniformDocuments reading.rows) :
    (∀ documentId,
      reading.titled.filter (ofDocument reading.metas documentId) =
        reading.pool.filter (ofDocument reading.metas documentId) ∧
      (reading.fused order).filter (ofDocument reading.metas documentId) =
        reading.pool.filter (ofDocument reading.metas documentId)) ∧
    ∀ topK documentId, reading.leadingDocument order = some documentId →
      ∃ leader, reading.anchor order topK = some leader ∧ leader ∈ reading.pool ∧
        ofDocument reading.metas documentId leader = true ∧
        (leader ∈ reading.base order topK ∨
          ∀ hit ∈ reading.base order topK, ofDocument reading.metas documentId hit = false) ∧
        ∀ hit ∈ reading.pool, ofDocument reading.metas documentId hit = true →
          hit.score ≤ leader.score := by
  refine ⟨fun documentId => ⟨titled_filter uniform documentId, fused_filter uniform documentId⟩, ?_⟩
  intro topK documentId leading
  have present : (reading.anchor order topK).isSome := leaderHit_isSome leading
  obtain ⟨leader, chosen⟩ := Option.isSome_iff_exists.mp present
  obtain ⟨other, alsoLeading, owned, place⟩ := leaderHit_spec chosen
  have same : other = documentId := Option.some.inj (alsoLeading.symm.trans leading)
  subst same
  -- The base is a part of the reranked pool, which rearranges the fused one.
  have pooled : leader ∈ reading.pool := by
    rcases place with seeded | kept
    · exact fused_perm.mem_iff.mp (List.mem_of_mem_take seeded)
    · exact fused_perm.mem_iff.mp kept
  exact ⟨leader, chosen, pooled, owned, anchor_mem_base leading chosen,
    score_le_anchor uniform leading chosen⟩

/-- The anchor of two manuals is the best page of the one the question names. -/
theorem anchor_is_best_two_manuals :
    let reading := twoManuals.reading [(1, 0.9), (3, 0.8), (2, 0.7)] [] lyrikQuestion 20
    let anchor : FusedHit := { chunkId := 3, score := 1 / 62 }
    (∀ documentId,
      reading.titled.filter (ofDocument reading.metas documentId) =
        reading.pool.filter (ofDocument reading.metas documentId) ∧
      (reading.fused .textual).filter (ofDocument reading.metas documentId) =
        reading.pool.filter (ofDocument reading.metas documentId)) ∧
    reading.leadingDocument .textual = some 2 ∧ reading.anchor .textual 5 = some anchor ∧
      anchor ∈ reading.pool ∧ ofDocument reading.metas 2 anchor = true ∧
      (anchor ∈ reading.base .textual 5 ∨
        ∀ hit ∈ reading.base .textual 5, ofDocument reading.metas 2 hit = false) ∧
      ∀ hit ∈ reading.pool, ofDocument reading.metas 2 hit = true → hit.score ≤ anchor.score := by
  intro reading anchor
  -- The second manual leads, and the better of its two pages was fused second.
  have leading : reading.leadingDocument .textual = some 2 := by decide +kernel
  have anchored : reading.anchor .textual 5 = some anchor := by decide +kernel
  obtain ⟨kept, best⟩ := anchor_is_best reading .textual (twoManuals.rowsWithIds_uniform _)
  obtain ⟨leader, chosen, facts⟩ := best 5 2 leading
  obtain rfl : leader = anchor := Option.some.inj (chosen.symm.trans anchored)
  exact ⟨kept, leading, anchored, facts⟩

end Reading

end TorqueFinder
