import TorqueFinder.Lib.ExceptFlow
import TorqueFinder.Migrations.CopyLaws

/-! What dropping the legacy tables and taking the drop back restores. -/

namespace TorqueFinder.Migrations

open ExceptFlow Ranking Relational

/-- The highest page number stored for a PDF, or zero when none of its pages is. -/
def lastPage (legacy : Legacy) (pdfId : Int) : Int :=
  (((legacy.pages.filter fun page => page.pdfId = pdfId).map Page.pageNo).max?).getD 0

/-- A PDF row under another id. -/
def Pdf.renamed (rename : Int → Int) (pdf : Pdf) : Pdf := { pdf with id := rename pdf.id }

/-- A page row under another id, in the PDF under its other id. -/
def Page.renamed (rename renumber : Int → Int) (page : Page) : Page :=
  { page with id := renumber page.id, pdfId := rename page.pdfId }

/-- The restored tables hold the original rows under other ids, with the page counts recomputed. -/
structure Restores (legacy : Legacy) (pdfs : List Pdf) (pages : List Page)
    (rename renumber : Int → Int) : Prop where
  rename_injOn : Set.InjOn rename {id | id ∈ legacy.pdfs.map Pdf.id}
  renumber_injOn : Set.InjOn renumber {id | id ∈ legacy.pages.map Page.id}
  pdfs : pdfs.Perm (legacy.pdfs.map fun pdf =>
    { pdf.renamed rename with pageCount := lastPage legacy pdf.id })
  pages : pages.Perm (legacy.pages.map (Page.renamed rename renumber))

/-- Two pairs of legacy tables hold exactly the same rows, up to a renaming of the ids. -/
def SameRows (legacy restored : Legacy) : Prop :=
  -- The numbers may change, but no two rows may get the same one.
  ∃ rename renumber, Set.InjOn rename {id | id ∈ legacy.pdfs.map Pdf.id} ∧
    Set.InjOn renumber {id | id ∈ legacy.pages.map Page.id} ∧
    restored.pdfs.Perm (legacy.pdfs.map (Pdf.renamed rename)) ∧
    restored.pages.Perm (legacy.pages.map (Page.renamed rename renumber))

/-- No stored page of a PDF is numbered beyond its page count. -/
def Legacy.Counted (legacy : Legacy) : Prop :=
  ∀ pdf ∈ legacy.pdfs, ∀ page ∈ legacy.pages, page.pdfId = pdf.id → page.pageNo ≤ pdf.pageCount

/-- The last page of a PDF is stored, or it has no pages and none is stored. -/
def LastPageStored (legacy : Legacy) (pdf : Pdf) : Prop :=
  -- The count is the largest stored page number, or zero without a page.
  (∃ page ∈ legacy.pages, page.pdfId = pdf.id ∧ page.pageNo = pdf.pageCount) ∨
    ((∀ page ∈ legacy.pages, page.pdfId ≠ pdf.id) ∧ pdf.pageCount = 0)

section PageCounts

variable {legacy : Legacy}

/-- The page count is the highest stored page number exactly when the last page is stored. -/
theorem lastPage_eq_iff (counted : legacy.Counted) {pdf : Pdf} (member : pdf ∈ legacy.pdfs) :
    lastPage legacy pdf.id = pdf.pageCount ↔ LastPageStored legacy pdf := by
  have stored : ∀ number,
      number ∈ (legacy.pages.filter fun page => page.pdfId = pdf.id).map Page.pageNo ↔
        ∃ page ∈ legacy.pages, page.pdfId = pdf.id ∧ page.pageNo = number := by
    intro number
    simp [and_assoc]
  unfold lastPage LastPageStored
  cases greatest : ((legacy.pages.filter fun page => page.pdfId = pdf.id).map
      Page.pageNo).max? with
  | none =>
    -- Nothing is stored, which counts as zero pages.
    rw [List.max?_eq_none_iff] at greatest
    simp only [greatest, List.not_mem_nil, false_iff] at stored
    have absent : ∀ page ∈ legacy.pages, page.pdfId ≠ pdf.id := fun page inside owner =>
      stored page.pageNo ⟨page, inside, owner, rfl⟩
    constructor
    · intro zero
      exact Or.inr ⟨absent, zero.symm⟩
    · intro last
      rcases last with ⟨page, inside, owner, _⟩ | ⟨_, zero⟩
      · exact absurd owner (absent page inside)
      · exact zero.symm
  -- The highest number belongs to a stored page.
  | some highest =>
    obtain ⟨held, bound⟩ := List.max?_eq_some_iff.mp greatest
    obtain ⟨page, inside, owner, rfl⟩ := (stored highest).mp held
    constructor
    · intro same
      exact Or.inl ⟨page, inside, owner, same⟩
    · intro last
      rcases last with ⟨final, also, finalOwner, same⟩ | ⟨absent, _⟩
      -- The last page is not above the highest one, and nothing is above the page count.
      · have below := bound final.pageNo ((stored _).mpr ⟨final, also, finalOwner, rfl⟩)
        have above := counted pdf member page inside owner
        rw [Option.getD_some]
        omega
      · exact absurd owner (absent page inside)

/-- The chunks of a document have the ordinals of the pages of its PDF. -/
theorem lastOrdinal_eq {documents : List DocumentRow} {chunks : List ChunkRow}
    {rename renumber : Int → Int} (copies : Copies legacy documents chunks rename renumber)
    {pdf : Pdf} (member : pdf ∈ legacy.pdfs) :
    lastOrdinal chunks (rename pdf.id) = lastPage legacy pdf.id := by
  -- The copies of the pages of the PDF are the chunks of its document, in some order.
  have ordinals : ((chunks.filter fun chunk => chunk.documentId = rename pdf.id).map
      ChunkRow.ordinal).Perm
      ((legacy.pages.filter fun page => page.pdfId = pdf.id).map Page.pageNo) := by
    have copied := (copies.chunks.filter fun chunk => chunk.documentId = rename pdf.id).map
      ChunkRow.ordinal
    rw [List.filter_map, List.map_map] at copied
    have owners : legacy.pages.filter ((fun chunk => decide (chunk.documentId = rename pdf.id)) ∘
        fun page => copiedChunk legacy rename (renumber page.id) page) =
        legacy.pages.filter fun page => page.pdfId = pdf.id := by
      refine List.filter_congr fun page inside => ?_
      have same := copies.rename_injOn.eq_iff (legacy.pages_owned page inside)
        (List.mem_map_of_mem member)
      simpa [copiedChunk] using same
    rw [owners] at copied
    exact copied
  rw [lastOrdinal, lastPage, max?_of_perm ordinals]

end PageCounts

section Restoring

variable {legacy : Legacy} {pdfs : List Pdf} {pages : List Page} {rename renumber : Int → Int}

/-- Restored rows satisfy every constraint of the legacy tables. -/
theorem Restores.checked (restores : Restores legacy pdfs pages rename renumber) :
    ∃ restored, Legacy.checked pdfs pages = .ok restored ∧ restored.pdfs = pdfs ∧
      restored.pages = pages := by
  have renamed := nodup_map_of_injOn legacy.pdfIds_nodup restores.rename_injOn
  have renumbered := nodup_map_of_injOn legacy.pageIds_nodup restores.renumber_injOn
  have pdfIds : (pdfs.map Pdf.id).Nodup := nodup_of_copies restores.pdfs renamed
  have sha256s : (pdfs.map Pdf.sha256).Nodup := nodup_of_copies restores.pdfs legacy.sha256s_nodup
  have pageIds : (pages.map Page.id).Nodup := nodup_of_copies restores.pages renumbered
  -- Two pages of different PDFs stay in different PDFs.
  have pageKeys : (pages.map Page.key).Nodup := by
    have keys := nodup_map_of_injOn legacy.pageKeys_nodup
      (legacy.pageKeys_injOn restores.rename_injOn)
    exact nodup_of_copies restores.pages keys
  have owned : ∀ page ∈ pages, page.pdfId ∈ pdfs.map Pdf.id :=
    owned_of_copies restores.pages restores.pdfs legacy.pages_owned (fun _ => rfl) fun _ => rfl
  refine ⟨⟨pdfs, pages, pdfIds, sha256s, pageIds, pageKeys, owned⟩, ?_, rfl, rfl⟩
  rw [Legacy.checked, dif_pos pdfIds, dif_pos sha256s, dif_pos pageIds, dif_pos pageKeys,
    dif_pos owned]

/-- The page row built for a chunk whose document is renamed. -/
def restoredPage (back : Int → Int) (id : Int) (chunk : ChunkRow) : Except Violation Page :=
  -- The column of the image may not be null in the old table.
  match chunk.pngR2Key with
  | none => .error (.notNull "png_r2_key")
  | some pngR2Key =>
    .ok { id, pdfId := back chunk.documentId, pageNo := chunk.ordinal, text := chunk.text
          embedding := chunk.embedding, pngR2Key, createdAt := chunk.createdAt }

/-- The chunks of the pages all have an image, and give the pages back. -/
theorem Copies.restoredPages {documents : List DocumentRow} {chunks : List ChunkRow}
    (copies : Copies legacy documents chunks rename renumber) (back again : Int → Int) :
    (chunks.map fun chunk => restoredPage back (again chunk.id) chunk).Perm
      ((legacy.pages.map (Page.renamed (back ∘ rename) (again ∘ renumber))).map .ok) := by
  -- Both maps rename the same chunks, once over and once back.
  rw [List.map_map]
  exact map_of_copies _ copies.chunks

/-- The documents of the PDFs give the PDFs back, with the last page stored for a page count. -/
theorem Copies.restoredPdfs {documents : List DocumentRow} {chunks : List ChunkRow}
    (copies : Copies legacy documents chunks rename renumber) (back : Int → Int) :
    (documents.map fun document => pdfRow chunks (back document.id) document).Perm
      (legacy.pdfs.map fun pdf =>
        { pdf.renamed (back ∘ rename) with pageCount := lastPage legacy pdf.id }) := by
  -- The page count is read off the ordinals of the chunks, which are the page numbers.
  refine (map_of_copies _ copies.documents).trans (List.Perm.of_eq ?_)
  refine List.map_congr_left fun pdf member => ?_
  simp only [Function.comp, pdfRow, documentRow, Pdf.renamed, lastOrdinal_eq copies member]

/-- Taking the drop back always succeeds, and restores each row of the copied tables. -/
theorem downgrade0005_restores (planner : Planner) {unified : Unified}
    (copies : Copies legacy unified.documents unified.chunks rename renumber) :
    ∃ restored back again, downgrade0005 planner unified = .ok (restored, unified) ∧
      Restores legacy restored.pdfs restored.pages (back ∘ rename) (again ∘ renumber) := by
  -- Every document is that of a PDF.
  have all : (unified.documents.filter fun document => document.sourceType = .pdf) =
      unified.documents := by
    rw [List.filter_eq_self]
    intro document member
    obtain ⟨pdf, _, rfl⟩ := List.mem_map.mp (copies.documents.mem_iff.mp member)
    simp [documentRow]
  have sorted := sortAsc_perm DocumentRow.id unified.documents
  obtain ⟨back, back_injOn, pdfs⟩ :=
    insertSelect_perm (pdfRow unified.chunks) (pdfRow unified.chunks) sorted (List.map_id _)
      unified.documentIds_nodup fun _ _ _ => rfl
  -- Each chunk meets its own document, and that document its own PDF.
  obtain ⟨once, partners⟩ := join_through (pdfRow unified.chunks) Pdf.sha256
    unified.documentIds_nodup unified.sourceRefs_nodup unified.chunks_owned (fun _ _ => rfl) pdfs
  have built : ∀ row ∈ join (fun pair : ChunkRow × DocumentRow => pair.2.sourceRef) Pdf.sha256
      (join ChunkRow.documentId DocumentRow.id unified.chunks unified.documents)
      (insertSelect (pdfRow unified.chunks) (sortAsc DocumentRow.id unified.documents)),
      ∀ number, pageRow number row = restoredPage back number row.1.1 := by
    intro row member number
    obtain ⟨⟨chunk, document⟩, pdf⟩ := row
    obtain ⟨_, _, made⟩ := partners _ member
    dsimp only at made
    subst made
    rfl
  obtain ⟨again, again_injOn, rows⟩ :=
    insertSelect_perm pageRow (restoredPage back) (planner.arrange_perm _) once
      unified.chunkIds_nodup built
  obtain ⟨pages, inserted, kept⟩ := mapM_id_of_perm (rows.trans (copies.restoredPages back again))
  -- The renamings of the two copies compose.
  have restores : Restores legacy
      (insertSelect (pdfRow unified.chunks) (sortAsc DocumentRow.id unified.documents)) pages
      (back ∘ rename) (again ∘ renumber) :=
    ⟨injOn_comp_of_copies copies.documents (fun _ => rfl) copies.rename_injOn back_injOn,
      injOn_comp_of_copies copies.chunks (fun _ => rfl) copies.renumber_injOn again_injOn,
      pdfs.trans (copies.restoredPdfs back), kept⟩
  obtain ⟨restored, checked, pdfsHeld, pagesHeld⟩ := restores.checked
  refine ⟨restored, back, again, ?_, ?_⟩
  · rw [downgrade0005]
    simp only [all, inserted, checked, ok_bind]
    rfl
  · rw [pdfsHeld, pagesHeld]
    exact restores

/-- The restored rows are the original ones exactly when every recomputed page count is right. -/
theorem Restores.sameRows_iff {restored : Legacy}
    (restores : Restores legacy restored.pdfs restored.pages rename renumber) :
    SameRows legacy restored ↔ ∀ pdf ∈ legacy.pdfs, lastPage legacy pdf.id = pdf.pageCount := by
  constructor
  · -- The digest tells which restored row is that of a PDF.
    intro same pdf member
    obtain ⟨otherwise, _, _, _, pdfs, _⟩ := same
    have inside : pdf.renamed otherwise ∈ restored.pdfs :=
      pdfs.mem_iff.mpr (List.mem_map_of_mem member)
    obtain ⟨origin, also, equal⟩ := List.mem_map.mp (restores.pdfs.mem_iff.mp inside)
    have digest := congrArg Pdf.sha256 equal
    have count := congrArg Pdf.pageCount equal
    obtain rfl : origin = pdf := Table.eq_of_key legacy.sha256s_nodup also member digest
    exact count
  · intro counts
    refine ⟨rename, renumber, restores.rename_injOn, restores.renumber_injOn, ?_, restores.pages⟩
    refine restores.pdfs.trans (List.Perm.of_eq (List.map_congr_left fun pdf member => ?_))
    rw [counts pdf member]
    rfl

/-- Dropping and taking back succeeds, and the restored rows are renamed original ones. -/
theorem roundTrip_restores (first second : Planner) (legacy : Legacy) :
    ∃ restored rename renumber, roundTrip first second legacy = .ok restored ∧
      Restores legacy restored.pdfs restored.pages rename renumber := by
  -- The two copies compose, and so do their renamings.
  obtain ⟨unified, rename, renumber, upgraded, copies⟩ := upgrade0004_copies first legacy
  obtain ⟨restored, back, again, downgraded, restores⟩ := downgrade0005_restores second copies
  refine ⟨restored, back ∘ rename, again ∘ renumber, ?_, restores⟩
  rw [roundTrip, upgraded, ok_bind, upgrade0005, downgraded]
  rfl

end Restoring

/-- The round trip gives the original rows exactly when the last page of every PDF is stored. -/
theorem roundTrip_sameRows_iff (first second : Planner) (legacy : Legacy)
    (counted : legacy.Counted) :
    (∃ restored, roundTrip first second legacy = .ok restored ∧ SameRows legacy restored) ↔
      ∀ pdf ∈ legacy.pdfs, LastPageStored legacy pdf := by
  -- Only the page counts can differ from the original ones.
  obtain ⟨restored, rename, renumber, done, restores⟩ := roundTrip_restores first second legacy
  have counts : (∀ pdf ∈ legacy.pdfs, lastPage legacy pdf.id = pdf.pageCount) ↔
      ∀ pdf ∈ legacy.pdfs, LastPageStored legacy pdf :=
    forall₂_congr fun pdf member => lastPage_eq_iff counted member
  rw [← counts, ← restores.sameRows_iff]
  constructor
  · intro same
    obtain ⟨other, also, rows⟩ := same
    obtain rfl : restored = other := Except.ok.inj (done.symm.trans also)
    exact rows
  · intro rows
    exact ⟨restored, done, rows⟩

/-- A PDF of three pages. -/
def suspensionPdf : Pdf where
  -- The manual has three pages.
  id := 4
  filename := "pike.pdf"
  sha256 := "d1"
  r2Key := "pdfs/d1.pdf"
  pageCount := 3
  createdAt := 0

/-- A stored page of the PDF. -/
def suspensionPage (id pageNo : Int) : Page where
  -- The pages differ only in their number.
  id := id
  pdfId := 4
  pageNo := pageNo
  text := "Torque the top cap."
  embedding := [1]
  pngR2Key := "pages/d1/" ++ toString pageNo ++ ".png"
  createdAt := 0

/-- Legacy tables with the PDF and some of its pages, numbered in the order given. -/
def suspensionTables (numbers : List Int) (distinct : numbers.Nodup) : Legacy where
  -- The page number serves as the id as well.
  pdfs := [suspensionPdf]
  pages := numbers.map fun number => suspensionPage number number
  pdfIds_nodup := List.nodup_singleton _
  sha256s_nodup := List.nodup_singleton _
  pageIds_nodup := by
    rw [List.map_map]
    exact distinct.map fun _ _ same => same
  pageKeys_nodup := by
    rw [List.map_map]
    exact distinct.map fun _ _ same => congrArg Prod.snd same
  pages_owned := by
    intro page member
    obtain ⟨number, _, rfl⟩ := List.mem_map.mp member
    exact List.mem_singleton_self _

/-- The tables without the second page. -/
def secondMissing : Legacy := suspensionTables [1, 3] (by decide)

/-- A PDF whose third page is stored is restored in full, though the second one is missing. -/
theorem roundTrip_sameRows_iff_secondMissing :
    ∃ restored, roundTrip .stored .stored secondMissing = .ok restored ∧
      SameRows secondMissing restored := by
  -- The third page is stored, so the count is right.
  refine (roundTrip_sameRows_iff .stored .stored _ ?_).mpr ?_
  · intro pdf inside page member _
    obtain rfl := List.mem_singleton.mp inside
    obtain ⟨number, listed, rfl⟩ := List.mem_map.mp member
    have bound : ∀ number ∈ [(1 : Int), 3], number ≤ 3 := by decide
    exact bound number listed
  · intro pdf inside
    obtain rfl := List.mem_singleton.mp inside
    refine Or.inl ⟨suspensionPage 3 3, ?_, rfl, rfl⟩
    exact List.mem_map_of_mem (by decide)

/-- The tables without the third page. -/
def thirdMissing : Legacy := suspensionTables [1, 2] (by decide)

/-- A PDF of three pages whose last one was never stored comes back as one of two pages. -/
theorem not_roundTrip_sameRows :
    thirdMissing.Counted ∧
      ¬∃ restored, roundTrip .stored .stored thirdMissing = .ok restored ∧
        SameRows thirdMissing restored := by
  constructor
  · intro pdf inside page member _
    obtain rfl := List.mem_singleton.mp inside
    obtain ⟨number, listed, rfl⟩ := List.mem_map.mp member
    have bound : ∀ number ∈ [(1 : Int), 2], number ≤ 3 := by decide
    exact bound number listed
  · -- The round trip sets the count to two, which is not that of the manual.
    intro same
    obtain ⟨restored, done, rows⟩ := same
    obtain ⟨other, rename, renumber, also, restores⟩ :=
      roundTrip_restores .stored .stored thirdMissing
    obtain rfl : restored = other := Except.ok.inj (done.symm.trans also)
    have count := restores.sameRows_iff.mp rows suspensionPdf (List.mem_singleton_self _)
    revert count
    decide

end TorqueFinder.Migrations
