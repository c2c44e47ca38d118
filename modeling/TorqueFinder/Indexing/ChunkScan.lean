import TorqueFinder.Lib.RoundRobin
import TorqueFinder.Retrieval.StoreSession

/-! The scan of the index for chunks whose text a pattern finds, a few of each document. -/

namespace TorqueFinder

open RoundRobin

/-- A chunk that a scan came upon. -/
structure MinedChunk where
  chunkId : Int
  documentId : Int
  documentTitle : String
  sourceType : SourceType
  ordinal : Int
  hasPng : Bool
  sourceUrl : String
  text : String
  deriving DecidableEq

/-- What a scan tells of a row. -/
def ChunkRow.mined (row : ChunkRow) : MinedChunk where
  -- The scan tells whether there is an image, and not where it lies.
  chunkId := row.chunkId
  documentId := row.documentId
  documentTitle := row.documentTitle
  sourceType := row.sourceType
  ordinal := row.ordinal
  hasPng := row.pngR2Key.isSome
  sourceUrl := row.sourceUrl
  text := row.text

/-- The rows a pattern finds, without those of documents whose title another one finds. -/
def Store.matchingRows (store : Store) (pattern : String → Bool)
    (excludeTitle : Option (String → Bool)) : List ChunkRow :=
  -- The patterns are given, as the database evaluates them.
  store.chunkRows.filter fun row =>
    pattern row.text && excludeTitle.all fun excluded => !excluded row.documentTitle

/-- The first chunks of each document that a pattern finds, up to a number in all. -/
def Store.scanChunksMatching (store : Store) (pattern : String → Bool)
    (excludeTitle : Option (String → Bool)) (perDocumentLimit limit : Nat) : List MinedChunk :=
  -- The rows of a document are numbered by their ordinals, and all the first ones come first.
  (roundRobin ChunkRow.documentId ChunkRow.ordinal perDocumentLimit limit
    (store.matchingRows pattern excludeTitle)).map ChunkRow.mined

/-- No two rows of a document have the same ordinal. -/
theorem placed_matchingRows (store : Store) (pattern : String → Bool)
    (excludeTitle : Option (String → Bool)) :
    Placed ChunkRow.documentId ChunkRow.ordinal (store.matchingRows pattern excludeTitle) :=
  -- A filter keeps the pages of a document apart.
  Table.nodup_filter store.chunkRows_nodup_pages _

/-- A scan takes turns among the documents, and does not see the order of the stored rows. -/
structure ScansFairly (store : Store) (pattern : String → Bool)
    (excludeTitle : Option (String → Bool)) (perDocumentLimit limit : Nat) : Prop where
  shared : ∃ chosen,
    store.scanChunksMatching pattern excludeTitle perDocumentLimit limit =
      chosen.map ChunkRow.mined ∧
    FairShare ChunkRow.documentId ChunkRow.ordinal perDocumentLimit limit
      (store.matchingRows pattern excludeTitle) chosen
  unordered : ∀ other : Store, store.chunkRows.Perm other.chunkRows →
    store.scanChunksMatching pattern excludeTitle perDocumentLimit limit =
      other.scanChunksMatching pattern excludeTitle perDocumentLimit limit

/-- Every scan of every store takes turns among the documents. -/
theorem scanChunksMatching_fair (store : Store) (pattern : String → Bool)
    (excludeTitle : Option (String → Bool)) (perDocumentLimit limit : Nat) :
    ScansFairly store pattern excludeTitle perDocumentLimit limit where
  -- The window function numbers the rows of each document by page.
  shared := by
    have placed := placed_matchingRows store pattern excludeTitle
    exact ⟨_, rfl, roundRobin_fair placed perDocumentLimit limit⟩
  -- Another order of the rows gives the same result.
  unordered other same := by
    have placed := placed_matchingRows store pattern excludeTitle
    exact congrArg (List.map ChunkRow.mined) (roundRobin_perm (same.filter _) placed)

end TorqueFinder
