import TorqueFinder.Migrations.Versions

/-! The copy into the unified tables: every legacy row once, and nothing else. -/

namespace TorqueFinder.Migrations

open Ranking Relational

/-- The storage key of the PDF with an id. -/
def Legacy.r2KeyOf (legacy : Legacy) (pdfId : Int) : String :=
  ((legacy.pdfs.find? fun pdf => pdf.id = pdfId).map Pdf.r2Key).getD ""

/-- The chunk row of a page, with ids renamed and renumbered. -/
def copiedChunk (legacy : Legacy) (rename : Int → Int) (id : Int) (page : Page) : ChunkRow where
  -- Only the numbers and the link of the page are new.
  id := id
  documentId := rename page.pdfId
  ordinal := page.pageNo
  text := page.text
  embedding := page.embedding
  pngR2Key := some page.pngR2Key
  anchor := none
  parentAnchor := none
  sourceUrl := legacy.r2KeyOf page.pdfId ++ "#page=" ++ toString page.pageNo
  createdAt := page.createdAt

/-- The unified tables hold a copy of each legacy row, with ids renamed, and no other rows. -/
structure Copies (legacy : Legacy) (documents : List DocumentRow) (chunks : List ChunkRow)
    (rename renumber : Int → Int) : Prop where
  rename_injOn : Set.InjOn rename {id | id ∈ legacy.pdfs.map Pdf.id}
  renumber_injOn : Set.InjOn renumber {id | id ∈ legacy.pages.map Page.id}
  documents : documents.Perm (legacy.pdfs.map fun pdf => documentRow (rename pdf.id) pdf)
  chunks : chunks.Perm
    (legacy.pages.map fun page => copiedChunk legacy rename (renumber page.id) page)

section Legacy

variable {legacy : Legacy}

/-- The storage key found under the id of a PDF is its own. -/
theorem Legacy.r2KeyOf_eq {pdf : Pdf} (member : pdf ∈ legacy.pdfs) :
    legacy.r2KeyOf pdf.id = pdf.r2Key := by
  -- No other PDF has the id.
  cases found : legacy.pdfs.find? (fun other => other.id = pdf.id) with
  | none =>
    have missed := List.find?_eq_none.mp found pdf member
    simp at missed
  | some other =>
    have same : other.id = pdf.id := by simpa using List.find?_some found
    have inside := List.mem_of_find?_eq_some found
    rw [Legacy.r2KeyOf, found, Table.eq_of_key legacy.pdfIds_nodup inside member same]
    rfl

/-- Renaming the PDFs apart keeps the keys of their pages apart. -/
theorem Legacy.pageKeys_injOn (legacy : Legacy) {rename : Int → Int}
    (injective : Set.InjOn rename {id | id ∈ legacy.pdfs.map Pdf.id}) :
    Set.InjOn (Prod.map rename id) {key | key ∈ legacy.pages.map Page.key} := by
  -- Pages of one PDF differ in their numbers, and pages of two PDFs in their PDFs.
  intro first left second right same
  obtain ⟨page, inside, rfl⟩ := List.mem_map.mp left
  obtain ⟨other, also, rfl⟩ := List.mem_map.mp right
  obtain ⟨owners, numbers⟩ := Prod.mk.injEq .. ▸ same
  have owner := injective (legacy.pages_owned page inside) (legacy.pages_owned other also) owners
  exact Prod.ext owner numbers

end Legacy

section Constraints

variable {legacy : Legacy} {documents : List DocumentRow} {chunks : List ChunkRow}
  {rename renumber : Int → Int}

/-- Copies of the legacy rows satisfy every constraint of the unified tables. -/
theorem Copies.checked (copies : Copies legacy documents chunks rename renumber) :
    ∃ unified, Unified.checked documents chunks = .ok unified ∧ unified.documents = documents ∧
      unified.chunks = chunks := by
  have renamed := nodup_map_of_injOn legacy.pdfIds_nodup copies.rename_injOn
  have renumbered := nodup_map_of_injOn legacy.pageIds_nodup copies.renumber_injOn
  have documentIds : (documents.map DocumentRow.id).Nodup :=
    nodup_of_copies copies.documents renamed
  have sourceRefs : (documents.map DocumentRow.sourceRef).Nodup :=
    nodup_of_copies copies.documents legacy.sha256s_nodup
  have chunkIds : (chunks.map ChunkRow.id).Nodup :=
    nodup_of_copies copies.chunks renumbered
  -- Two pages of different PDFs stay in different documents.
  have chunkKeys : (chunks.map ChunkRow.key).Nodup := by
    have keys := nodup_map_of_injOn legacy.pageKeys_nodup
      (legacy.pageKeys_injOn copies.rename_injOn)
    exact nodup_of_copies copies.chunks keys
  have owned : ∀ chunk ∈ chunks, chunk.documentId ∈ documents.map DocumentRow.id :=
    owned_of_copies copies.chunks copies.documents legacy.pages_owned (fun _ => rfl) fun _ => rfl
  refine ⟨⟨documents, chunks, documentIds, sourceRefs, chunkIds, chunkKeys, owned⟩, ?_, rfl, rfl⟩
  rw [Unified.checked, dif_pos documentIds, dif_pos sourceRefs, dif_pos chunkIds,
    dif_pos chunkKeys, dif_pos owned]

end Constraints

/-- Revision 0004 always succeeds, and leaves a copy of each legacy row. -/
theorem upgrade0004_copies (planner : Planner) (legacy : Legacy) :
    ∃ unified rename renumber, upgrade0004 planner legacy = .ok unified ∧
      Copies legacy unified.documents unified.chunks rename renumber := by
  -- The documents are numbered in the order of the PDF ids.
  have sorted := sortAsc_perm Pdf.id legacy.pdfs
  obtain ⟨rename, rename_injOn, documents⟩ :=
    insertSelect_perm documentRow documentRow sorted (List.map_id _) legacy.pdfIds_nodup
      fun _ _ _ => rfl
  -- Each page meets its own PDF, and that PDF its own document.
  obtain ⟨once, partners⟩ := join_through documentRow DocumentRow.sourceRef legacy.pdfIds_nodup
    legacy.sha256s_nodup legacy.pages_owned (fun _ _ => rfl) documents
  -- So the row that is inserted is the copy of the page.
  have built : ∀ row ∈ join (fun pair : Page × Pdf => pair.2.sha256) DocumentRow.sourceRef
      (join Page.pdfId Pdf.id legacy.pages legacy.pdfs)
      (insertSelect documentRow (sortAsc Pdf.id legacy.pdfs)),
      ∀ number, chunkRow number row = copiedChunk legacy rename number row.1.1 := by
    intro row member number
    obtain ⟨⟨page, pdf⟩, document⟩ := row
    obtain ⟨inside, owner, made⟩ := partners _ member
    dsimp only at inside owner made
    subst made
    have key : legacy.r2KeyOf page.pdfId = pdf.r2Key := by
      rw [← owner, Legacy.r2KeyOf_eq inside]
    simp only [chunkRow, copiedChunk, documentRow, key]
  obtain ⟨renumber, renumber_injOn, chunks⟩ :=
    insertSelect_perm chunkRow (copiedChunk legacy rename) (planner.arrange_perm _) once
      legacy.pageIds_nodup built
  have copies : Copies legacy _ _ rename renumber :=
    ⟨rename_injOn, renumber_injOn, documents, chunks⟩
  -- The copies meet the constraints of the new tables.
  obtain ⟨unified, checked, documentsHeld, chunksHeld⟩ := copies.checked
  refine ⟨unified, rename, renumber, checked, ?_⟩
  rw [documentsHeld, chunksHeld]
  exact copies

/-- A document row carries the columns of a PDF. -/
structure CarriesPdf (pdf : Pdf) (document : DocumentRow) : Prop where
  sourceType : document.sourceType = .pdf
  title : document.title = pdf.filename
  sourceUrl : document.sourceUrl = pdf.r2Key
  sourceRef : document.sourceRef = pdf.sha256
  createdAt : document.createdAt = pdf.createdAt

/-- A chunk row belongs to the document of a page's PDF and carries the columns of the page. -/
structure CarriesPage (pdf : Pdf) (document : DocumentRow) (page : Page) (chunk : ChunkRow) :
    Prop where
  owner : chunk.documentId = document.id
  ordinal : chunk.ordinal = page.pageNo
  text : chunk.text = page.text
  embedding : chunk.embedding = page.embedding
  pngR2Key : chunk.pngR2Key = some page.pngR2Key
  createdAt : chunk.createdAt = page.createdAt
  sourceUrl : chunk.sourceUrl = pdf.r2Key ++ "#page=" ++ toString page.pageNo

/-- The copy loses and invents nothing: PDFs become documents and pages chunks, one for one. -/
theorem upgrade0004_bijective (planner : Planner) (legacy : Legacy) :
    ∃ unified, upgrade0004 planner legacy = .ok unified ∧
      (unified.documents.map DocumentRow.sourceRef).Nodup ∧
      (unified.chunks.map ChunkRow.key).Nodup ∧
      unified.documents.length = legacy.pdfs.length ∧
      unified.chunks.length = legacy.pages.length ∧
      ∃ (documentOf : Pdf → DocumentRow) (chunkOf : Page → ChunkRow),
        Set.BijOn documentOf {pdf | pdf ∈ legacy.pdfs} {row | row ∈ unified.documents} ∧
        Set.BijOn chunkOf {page | page ∈ legacy.pages} {row | row ∈ unified.chunks} ∧
        (∀ pdf ∈ legacy.pdfs, CarriesPdf pdf (documentOf pdf)) ∧
        ∀ pdf ∈ legacy.pdfs, ∀ page ∈ legacy.pages, page.pdfId = pdf.id →
          CarriesPage pdf (documentOf pdf) page (chunkOf page) := by
  obtain ⟨unified, rename, renumber, upgraded, copies⟩ := upgrade0004_copies planner legacy
  refine ⟨unified, upgraded, unified.sourceRefs_nodup, unified.chunkKeys_nodup,
    copies.documents.length_eq.trans (List.length_map _),
    copies.chunks.length_eq.trans (List.length_map _),
    fun pdf => documentRow (rename pdf.id) pdf,
    fun page => copiedChunk legacy rename (renumber page.id) page, ?_, ?_, ?_, ?_⟩
  · exact bijOn_of_copies DocumentRow.id copies.documents legacy.pdfIds_nodup copies.rename_injOn
      fun _ => rfl
  · exact bijOn_of_copies ChunkRow.id copies.chunks legacy.pageIds_nodup copies.renumber_injOn
      fun _ => rfl
  · intro pdf _
    exact ⟨rfl, rfl, rfl, rfl, rfl⟩
  · intro pdf member page _ owner
    -- The link starts with the storage key of the page's own PDF.
    have key : legacy.r2KeyOf page.pdfId = pdf.r2Key := by
      rw [owner, Legacy.r2KeyOf_eq member]
    refine ⟨congrArg rename owner, rfl, rfl, rfl, rfl, rfl, ?_⟩
    simp only [copiedChunk, key]

end TorqueFinder.Migrations
