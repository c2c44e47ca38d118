import TorqueFinder.Domain.Models
import TorqueFinder.Lib.Relational
import TorqueFinder.Lib.StableSort

/-! The legacy and the unified tables, and the revisions that copy and drop between them. -/

namespace TorqueFinder.Migrations

open Ranking Relational

/-- A row of the table `pdfs`. -/
structure Pdf where
  id : Int
  filename : String
  sha256 : String
  r2Key : String
  pageCount : Int
  createdAt : Int
  deriving DecidableEq

/-- A row of the table `pages`, without the column that is computed from its text. -/
structure Page where
  id : Int
  pdfId : Int
  pageNo : Int
  text : String
  embedding : Embedding
  pngR2Key : String
  createdAt : Int
  deriving DecidableEq

/-- What the unique constraint on pages compares. -/
def Page.key (page : Page) : Int × Int := (page.pdfId, page.pageNo)

/-- The two legacy tables with the constraints of the first revision. -/
structure Legacy where
  pdfs : List Pdf
  pages : List Page
  pdfIds_nodup : (pdfs.map Pdf.id).Nodup
  sha256s_nodup : (pdfs.map Pdf.sha256).Nodup
  pageIds_nodup : (pages.map Page.id).Nodup
  pageKeys_nodup : (pages.map Page.key).Nodup
  pages_owned : ∀ page ∈ pages, page.pdfId ∈ pdfs.map Pdf.id

/-- A row of the table `documents`, as the fourth revision creates it. -/
structure DocumentRow where
  id : Int
  sourceType : SourceType
  title : String
  sourceUrl : String
  sourceRef : String
  createdAt : Int
  deriving DecidableEq

/-- A row of the table `chunks`, without the column that is computed from its text. -/
structure ChunkRow where
  id : Int
  documentId : Int
  ordinal : Int
  text : String
  embedding : Embedding
  pngR2Key : Option String
  anchor : Option String
  parentAnchor : Option String
  sourceUrl : String
  createdAt : Int
  deriving DecidableEq

/-- What the unique constraint on chunks compares. -/
def ChunkRow.key (chunk : ChunkRow) : Int × Int := (chunk.documentId, chunk.ordinal)

/-- The two unified tables with the constraints of the fourth revision. -/
structure Unified where
  documents : List DocumentRow
  chunks : List ChunkRow
  documentIds_nodup : (documents.map DocumentRow.id).Nodup
  sourceRefs_nodup : (documents.map DocumentRow.sourceRef).Nodup
  chunkIds_nodup : (chunks.map ChunkRow.id).Nodup
  chunkKeys_nodup : (chunks.map ChunkRow.key).Nodup
  chunks_owned : ∀ chunk ∈ chunks, chunk.documentId ∈ documents.map DocumentRow.id

/-- Why a statement of a revision is refused. -/
inductive Violation where
  /-- A unique or primary key would repeat. -/
  | unique (constraint : String)
  /-- A reference would lead nowhere. -/
  | foreignKey (column : String)
  /-- A column that must be filled would be empty. -/
  | notNull (column : String)
  deriving DecidableEq

/-- The order in which the database visits the rows of a query that asks for none. -/
structure Planner where
  arrange : {ρ : Type} → List ρ → List ρ
  /-- Every row is visited once. -/
  arrange_perm : ∀ {ρ : Type} (rows : List ρ), (arrange rows).Perm rows

/-- The planner that visits rows in the order in which they are stored. -/
def Planner.stored : Planner where
  -- The statement has no ORDER BY, and this is one of the orders it may have.
  arrange rows := rows
  arrange_perm rows := List.Perm.refl rows

/-- The unified tables with their constraints checked. -/
def Unified.checked (documents : List DocumentRow) (chunks : List ChunkRow) :
    Except Violation Unified :=
  -- The constraints are checked one after another, and the first violation is raised.
  if documentIds : (documents.map DocumentRow.id).Nodup then
    if sourceRefs : (documents.map DocumentRow.sourceRef).Nodup then
      if chunkIds : (chunks.map ChunkRow.id).Nodup then
        if chunkKeys : (chunks.map ChunkRow.key).Nodup then
          if owned : ∀ chunk ∈ chunks, chunk.documentId ∈ documents.map DocumentRow.id then
            .ok ⟨documents, chunks, documentIds, sourceRefs, chunkIds, chunkKeys, owned⟩
          else .error (.foreignKey "chunks.document_id")
        else .error (.unique "uq_chunks_document_ordinal")
      else .error (.unique "chunks_pkey")
    else .error (.unique "uq_documents_source_ref")
  else .error (.unique "documents_pkey")

/-- The legacy tables with their constraints checked. -/
def Legacy.checked (pdfs : List Pdf) (pages : List Page) : Except Violation Legacy :=
  -- The constraints of the old tables, in the same order.
  if pdfIds : (pdfs.map Pdf.id).Nodup then
    if sha256s : (pdfs.map Pdf.sha256).Nodup then
      if pageIds : (pages.map Page.id).Nodup then
        if pageKeys : (pages.map Page.key).Nodup then
          if owned : ∀ page ∈ pages, page.pdfId ∈ pdfs.map Pdf.id then
            .ok ⟨pdfs, pages, pdfIds, sha256s, pageIds, pageKeys, owned⟩
          else .error (.foreignKey "pages.pdf_id")
        else .error (.unique "uq_pages_pdf_page")
      else .error (.unique "pages_pkey")
    else .error (.unique "uq_pdfs_sha256")
  else .error (.unique "pdfs_pkey")

/-- The document row built for a PDF. -/
def documentRow (id : Int) (pdf : Pdf) : DocumentRow where
  -- The id is a new one of the sequence.
  id := id
  sourceType := .pdf
  title := pdf.filename
  sourceUrl := pdf.r2Key
  sourceRef := pdf.sha256
  createdAt := pdf.createdAt

/-- The chunk row built for a page with its PDF and its document. -/
def chunkRow (id : Int) : (Page × Pdf) × DocumentRow → ChunkRow
  -- The insert of the migration names the columns in this order.
  | ((page, pdf), document) =>
    { id, documentId := document.id, ordinal := page.pageNo, text := page.text
      embedding := page.embedding, pngR2Key := some page.pngR2Key, anchor := none
      parentAnchor := none, sourceUrl := pdf.r2Key ++ "#page=" ++ toString page.pageNo
      createdAt := page.createdAt }

/-- Revision 0004: create the unified tables and copy the legacy rows into them. -/
def upgrade0004 (planner : Planner) (legacy : Legacy) : Except Violation Unified :=
  -- The documents are inserted in the order of the PDF ids.
  let documents := insertSelect documentRow (sortAsc Pdf.id legacy.pdfs)
  -- The pages are joined to their PDFs by id, and these to their documents by digest.
  let owned := join Page.pdfId Pdf.id legacy.pages legacy.pdfs
  let joined := join (fun pair => pair.2.sha256) DocumentRow.sourceRef owned documents
  Unified.checked documents (insertSelect chunkRow (planner.arrange joined))

/-- Revision 0005: drop the legacy tables. -/
def upgrade0005 (tables : Legacy × Unified) : Unified := tables.2

/-- The highest ordinal among a document's chunks, or zero when it has none. -/
def lastOrdinal (chunks : List ChunkRow) (documentId : Int) : Int :=
  (((chunks.filter fun chunk => chunk.documentId = documentId).map ChunkRow.ordinal).max?).getD 0

/-- The PDF row built for a document. -/
def pdfRow (chunks : List ChunkRow) (id : Int) (document : DocumentRow) : Pdf where
  -- The page count is computed again from the stored chunks.
  id := id
  filename := document.title
  sha256 := document.sourceRef
  r2Key := document.sourceUrl
  pageCount := lastOrdinal chunks document.id
  createdAt := document.createdAt

/-- The page row built for a chunk with its document and its PDF, whose image must be there. -/
def pageRow (id : Int) : (ChunkRow × DocumentRow) × Pdf → Except Violation Page
  | ((chunk, _), pdf) =>
    match chunk.pngR2Key with
    -- The old table has no page without an image.
    | none => .error (.notNull "png_r2_key")
    | some pngR2Key =>
      .ok { id, pdfId := pdf.id, pageNo := chunk.ordinal, text := chunk.text
            embedding := chunk.embedding, pngR2Key, createdAt := chunk.createdAt }

/-- Revision 0005 taken back: recreate the legacy tables and copy the PDF rows into them. -/
def downgrade0005 (planner : Planner) (unified : Unified) :
    Except Violation (Legacy × Unified) := do
  let documents := unified.documents.filter fun document => document.sourceType = .pdf
  let pdfs := insertSelect (pdfRow unified.chunks) (sortAsc DocumentRow.id documents)
  -- The second join condition restricts the documents to those of PDFs.
  let owned := join ChunkRow.documentId DocumentRow.id unified.chunks documents
  let joined := join (fun pair => pair.2.sourceRef) Pdf.sha256 owned pdfs
  let pages ← (insertSelect pageRow (planner.arrange joined)).mapM id
  let legacy ← Legacy.checked pdfs pages
  return (legacy, unified)

/-- Copy into the unified tables, drop the legacy ones, and take the drop back. -/
def roundTrip (first second : Planner) (legacy : Legacy) : Except Violation Legacy := do
  -- The upgrade that drops the old tables stands between the two copies.
  let unified ← upgrade0004 first legacy
  let (restored, _) ← downgrade0005 second (upgrade0005 (legacy, unified))
  return restored

end TorqueFinder.Migrations
