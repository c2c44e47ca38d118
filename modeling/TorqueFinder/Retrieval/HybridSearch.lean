import TorqueFinder.Domain.Errors
import TorqueFinder.Indexing.Repository
import TorqueFinder.Retrieval.PageExpansion

/-! Hybrid search: fuse the channels, rerank the pool, expand the leading document, hydrate. -/

namespace TorqueFinder

open Ranking

/-- One row of the chunk queries: a chunk joined with its document. -/
structure ChunkRow where
  chunkId : Int
  documentId : Int
  ordinal : Int
  text : String
  pngR2Key : Option String
  anchor : Option String
  parentAnchor : Option String
  sourceUrl : String
  sourceType : SourceType
  documentTitle : String
  documentSourceUrl : String
  productFamily : Option String
  brand : Option String
  deriving DecidableEq

/-- The row of a chunk and the document that owns it. -/
def ChunkRow.join (chunk : Chunk) (document : IndexedDocument) : ChunkRow where
  -- The columns of the joined query.
  chunkId := chunk.id
  documentId := chunk.documentId
  ordinal := chunk.values.ordinal
  text := chunk.values.text
  pngR2Key := chunk.values.pngR2Key
  anchor := chunk.values.anchor
  parentAnchor := chunk.values.parentAnchor
  sourceUrl := chunk.values.sourceUrl
  sourceType := document.sourceType
  documentTitle := document.title
  documentSourceUrl := document.sourceUrl
  productFamily := document.productFamily
  brand := document.brand

/-- An exception of the database driver. -/
structure DatabaseError where
  message : String

/-- What hybrid search asks of the embedding service and the database session. -/
structure Session where
  /-- The embedding of a question, or the error the embedder raises. -/
  embedQuery : String → Except RetrievalError Embedding
  /-- The full-text query. -/
  keywordQuery : String → Nat → Except DatabaseError Channel
  /-- The similarity query. -/
  vectorQuery : Embedding → Nat → Except DatabaseError Channel
  /-- The rows of the chunks with the given ids. -/
  loadChunks : List Int → Except DatabaseError (List ChunkRow)
  /-- The rows of one document between two ordinals. -/
  loadDocNeighbors : Int → Int → Int → Except DatabaseError (List ChunkRow)

/-- Turn a database failure into a retrieval error with the given message. -/
def orRaise {α : Type*} (message : String) : Except DatabaseError α → Except RetrievalError α
  -- The exception of the database is replaced by one of the retrieval.
  | .ok value => .ok value
  | .error _ => .error { message }

/-- The keyword channel. -/
def keywordSearch (session : Session) (queryText : String) (topK : Nat) :
    Except RetrievalError Channel :=
  -- The query itself is evaluated by the database.
  orRaise "Keyword search query failed" (session.keywordQuery queryText topK)

/-- The vector channel. -/
def vectorSearch (session : Session) (queryEmbedding : Embedding) (topK : Nat) :
    Except RetrievalError Channel :=
  -- The distances are computed by the database.
  orRaise "Vector search query failed" (session.vectorQuery queryEmbedding topK)

/-- The row a dictionary holds for a chunk: a later row replaces an earlier one. -/
def rowOf (rows : List ChunkRow) (chunkId : Int) : Option ChunkRow :=
  -- Searching from the back finds the row that was written last.
  rows.reverse.find? fun row => row.chunkId = chunkId

/-- The titles of the loaded chunks. -/
def titlesOf (rows : List ChunkRow) (chunkId : Int) : Option String :=
  (rowOf rows chunkId).map ChunkRow.documentTitle

/-- The product facets of the loaded chunks. -/
def facetsOf (rows : List ChunkRow) (chunkId : Int) : Option ProductMeta :=
  (rowOf rows chunkId).map fun row => { family := row.productFamily, brand := row.brand }

/-- The expansion facts of a pool row. -/
def ChunkRow.toMeta (row : ChunkRow) : ChunkMeta where
  -- What the later stages read of a row.
  chunkId := row.chunkId
  documentId := row.documentId
  ordinal := row.ordinal
  text := row.text
  isPdf := row.sourceType == .pdf

/-- The expansion facts of a neighbour row, which counts as a PDF page. -/
def ChunkRow.toNeighborMeta (row : ChunkRow) : ChunkMeta := { row.toMeta with isPdf := true }

/-- The expansion facts of the loaded chunks. -/
def metasOf (rows : List ChunkRow) (chunkId : Int) : Option ChunkMeta :=
  (rowOf rows chunkId).map ChunkRow.toMeta

/-- The fused pool after the title pass and then the product pass. -/
def rerankedPool (order : SetOrder) (queryText : String) (pool : List FusedHit)
    (rows : List ChunkRow) : List FusedHit :=
  -- The titles are weighed before the products.
  rerankByProduct order queryText (rerankByTitle queryText pool (titlesOf rows)) (facetsOf rows)

/-- The anchor of the expansion: the leading document's best base hit, else its first pool hit. -/
def leaderHit (base fused : List FusedHit) (metas : Int → Option ChunkMeta) : Option FusedHit :=
  match selectLeadingDocument fused metas with
  | none => none
  | some leadingDocId =>
    -- The document may have won on hits that are all outside the base.
    match selectLeaderChunk (base.filter (ofDocument metas leadingDocId)) with
    | some leader => some leader
    | none => fused.find? (ofDocument metas leadingDocId)

/-- The anchor with its facts, when it is expanded: only PDF pages are, and only in a window. -/
def expandedLeader (pageWindow : Nat) (base fused : List FusedHit)
    (metas : Int → Option ChunkMeta) : Option (FusedHit × ChunkMeta) :=
  match leaderHit base fused metas with
  | none => none
  | some leader =>
    match metas leader.chunkId with
    | none => none
    | some leaderMeta =>
      -- Only pages of a manual have neighbours.
      if leaderMeta.isPdf ∧ 0 < pageWindow then some (leader, leaderMeta) else none

/-- The row a hit is hydrated from: its pool row, else its neighbour row. -/
def hydratedRow (rows neighborRows : List ChunkRow) (chunkId : Int) : Option ChunkRow :=
  -- The rows of the pool come first.
  match rowOf rows chunkId with
  | some row => some row
  | none => rowOf neighborRows chunkId

/-- Hydrate one row into a hit. -/
def rowToRetrieved (row : ChunkRow) (score : ℚ) : RetrievedChunk where
  -- The score is that of the candidate, and everything else is copied.
  chunkId := row.chunkId
  documentId := row.documentId
  sourceType := row.sourceType
  documentTitle := row.documentTitle
  documentSourceUrl := row.documentSourceUrl
  ordinal := row.ordinal
  text := row.text
  pngR2Key := row.pngR2Key
  anchor := row.anchor
  parentAnchor := row.parentAnchor
  sourceUrl := row.sourceUrl
  score := score
  source := .hybrid
  productFamily := row.productFamily
  brand := row.brand

/-- Hydrate the hits in order, skipping those without a row. -/
def hydrate (rows neighborRows : List ChunkRow) (assembled : List FusedHit) : List RetrievedChunk :=
  -- The score is that of the hit, everything else that of the row.
  assembled.filterMap fun hit =>
    (hydratedRow rows neighborRows hit.chunkId).map fun row => rowToRetrieved row hit.score

/-- Run both channels, fuse and rerank their hits, expand the leading document and hydrate. -/
def hybridSearch (order : SetOrder) (session : Session) (queryText : String) (topK : Nat)
    (perChannelK : Nat := defaultTopKPerChannel) (pageWindow : Nat := defaultPageWindow)
    (maxCandidates : Nat := defaultMaxCandidates) :
    Except RetrievalError (List RetrievedChunk) := do
  let queryEmbedding ← session.embedQuery queryText
  let keywordHits ← keywordSearch session queryText perChannelK
  let vectorHits ← vectorSearch session queryEmbedding perChannelK
  let pool := reciprocalRankFusion [keywordHits, vectorHits]
  -- Without a hit there is nothing to load.
  if pool = [] then return []
  let rows ← orRaise "Failed to load fused chunk rows"
    (session.loadChunks (pool.map FusedHit.chunkId))
  let fused := rerankedPool order queryText pool rows
  let metas := metasOf rows
  -- The base is cut from the reranked pool, before anything is expanded.
  let base := fused.take topK
  match expandedLeader pageWindow base fused metas with
  -- Without an anchor to expand, the budget cuts the base alone.
  | none => return hydrate rows [] (base.take maxCandidates)
  | some (leader, leaderMeta) =>
    let anchor := leaderMeta.ordinal
    let neighborRows ← orRaise "Failed to load leader-doc neighbor rows"
      (session.loadDocNeighbors leaderMeta.documentId (anchor - pageWindow) (anchor + pageWindow))
    -- The within-document pass reorders the whole base, not only the pages of the document.
    let reranked := rerankWithinDoc queryText base metas leaderMeta.documentId
    let assembled := assembleCandidates reranked (neighborRows.map ChunkRow.toNeighborMeta) anchor
      leader.score maxCandidates
    return hydrate rows neighborRows assembled

end TorqueFinder
