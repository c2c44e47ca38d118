import TorqueFinder.Ingestion.PdfAssets
import TorqueFinder.Ingestion.PdfRuns
import TorqueFinder.Ingestion.Rasterizer

/-! The chunks of a PDF against its pages: numbers, images, texts and embeddings. -/

namespace TorqueFinder

open ExceptFlow Simulation PdfWorld

/-- A chunk carries a page as it was rendered, and as it was parsed last. -/
structure CarriesPage (world : PdfWorld) (sha256 : String) (pages : List ParsedPage)
    (embeddings : List Embedding) (image : Nat × List UInt8)
    (content : ChunkValues × Embedding) : Prop where
  ordinal : content.1.ordinal = image.1
  image_key : content.1.pngR2Key = some (pngKey sha256 image.1)
  link : content.1.sourceUrl = pdfKey sha256 ++ "#page=" ++ toString image.1
  stored : world.object (pngKey sha256 image.1) = some image.2
  /-- Text and embedding are those of one parsed page, which no later one of its number follows. -/
  parsed : ∃ front page back, pages = front ++ page :: back ∧ page.pageNo = (image.1 : Int) ∧
    (∀ later ∈ back, later.pageNo ≠ (image.1 : Int)) ∧ content.1.text = page.text ∧
      embeddings[front.length]? = some content.2

/-- An ingestion has indexed the rendered pages that were parsed, one chunk for each. -/
structure IndexesPages (attempt : PdfAttempt) (before after : PdfWorld)
    (document : IndexedDocument) (pages : List ParsedPage) (embeddings : List Embedding)
    (images : List (Nat × List UInt8)) : Prop where
  parsed : attempt.parsePdf = .ok pages
  embedded : attempt.embedDocuments (pages.map embedInput) = .ok embeddings
  one_each : embeddings.length = pages.length
  rendered : attempt.rendered = images.map .ok
  carried : List.Forall₂ (CarriesPage after document.sourceRef pages embeddings)
    (images.filter fun image => ∃ page ∈ pages, page.pageNo = image.1)
    (after.store.contentsOf document.id)
  increasing : ((after.store.contentsOf document.id).map fun content =>
    content.1.ordinal).Pairwise (· < ·)
  none_before : before.store.contentsOf document.id = []
  no_other : ∀ other ≠ document.id, after.store.ownedChunks other = before.store.ownedChunks other

variable {library : PdfLibrary} {attempt : PdfAttempt} {before after : PdfWorld} {sha256 : String}
  {pages : List ParsedPage} {embeddings : List Embedding} {document : IndexedDocument}
  {number other : Nat} {images : List (Nat × List UInt8)}

/-- Numbers with the same four digits are the same. -/
theorem fourDigits_injective : Function.Injective fourDigits := by
  -- The zeros in front do not change what the digits stand for.
  have value : ∀ number, Nat.ofDigitChars 10 (fourDigits number).toList 0 = number := by
    intro number
    have digits : (toString number).toList = Nat.toDigits 10 number := Nat.toList_repr
    rw [fourDigits, String.toList_append, String.toList_ofList, digits, Nat.ofDigitChars_append,
      Nat.ofDigitChars_replicate_zero, Nat.mul_zero, Nat.ofDigitChars_ten_toDigits]
  intro first second same
  rw [← value first, same, value second]

/-- Pages of one document with the same image key have the same number. -/
theorem pngKey_injective (sha256 : String) : Function.Injective (pngKey sha256) := by
  intro first second same
  have texts := congrArg String.toList same
  simp only [pngKey, String.toList_append] at texts
  -- The keys differ in nothing but the digits.
  have digits := List.append_cancel_left (List.append_cancel_right texts)
  exact fourDigits_injective (String.toList_injective digits)

/-- A rendered page has an embedding when its number was parsed. -/
theorem embeddingByPage_eq_none (enough : embeddings.length = pages.length) :
    embeddingByPage pages embeddings number = none ↔ ¬ ∃ page ∈ pages, page.pageNo = number := by
  -- Every page is paired with an embedding.
  have pairs : (pages.zip embeddings).map Prod.fst = pages := List.map_fst_zip enough.ge
  rw [embeddingByPage, Option.map_eq_none_iff, List.find?_eq_none]
  constructor
  · intro absent parsed
    obtain ⟨page, member, same⟩ := parsed
    rw [← pairs] at member
    obtain ⟨entry, paired, rfl⟩ := List.mem_map.mp member
    simpa [same] using absent entry (List.mem_reverse.mpr paired)
  · intro absent entry paired
    have member : entry.1 ∈ pages := by
      rw [← pairs]
      exact List.mem_map_of_mem (List.mem_reverse.mp paired)
    simpa using fun same => absent ⟨entry.1, member, same⟩

/-- The text and the embedding of a rendered page are those of the last page of its number. -/
theorem embeddingByPage_eq_some {embedding : Embedding}
    (enough : embeddings.length = pages.length)
    (found : embeddingByPage pages embeddings number = some embedding) :
    ∃ front page back, pages = front ++ page :: back ∧ page.pageNo = (number : Int) ∧
      (∀ later ∈ back, later.pageNo ≠ (number : Int)) ∧ textByPage pages number = page.text ∧
        embeddings[front.length]? = some embedding := by
  obtain ⟨entry, last, rfl⟩ := Option.map_eq_some_iff.mp found
  obtain ⟨front, back, split, same, others⟩ := Table.find?_reverse_eq_some.mp last
  -- Splitting the pairs splits the pages and the embeddings at the same place.
  have pageSplit : pages = front.map Prod.fst ++ entry.1 :: back.map Prod.fst := by
    rw [← List.map_fst_zip enough.ge, split, List.map_append, List.map_cons]
  have vectorSplit : embeddings = front.map Prod.snd ++ entry.2 :: back.map Prod.snd := by
    rw [← List.map_snd_zip enough.le, split, List.map_append, List.map_cons]
  have numbered : entry.1.pageNo = number := by simpa using same
  have later : ∀ page ∈ back.map Prod.fst, page.pageNo ≠ number := by
    intro page member
    obtain ⟨pair, behind, rfl⟩ := List.mem_map.mp member
    simpa using others pair behind
  have text : pages.reverse.find? (fun page => page.pageNo = (number : Int)) = some entry.1 := by
    refine Table.find?_reverse_eq_some.mpr ⟨_, _, pageSplit, by simpa using numbered, ?_⟩
    intro page behind
    simpa using later page behind
  refine ⟨front.map Prod.fst, entry.1, back.map Prod.fst, pageSplit, numbered, later, ?_, ?_⟩
  · rw [textByPage, text]
    rfl
  · have place : (front.map Prod.fst).length = (front.map Prod.snd).length := by simp
    rw [vectorSplit, place, List.getElem?_append_right le_rfl, Nat.sub_self,
      List.getElem?_cons_zero]

/-- Every image that an ingestion uploads is found under its key afterwards. -/
theorem object_of_imageUploads {older : List (String × List UInt8)} {image : Nat × List UInt8}
    (distinct : (images.map Prod.fst).Nodup)
    (uploads : after.objects = older ++ imageUploads sha256 pages embeddings images)
    (member : image ∈ images) (parsed : embeddingByPage pages embeddings image.1 ≠ none) :
    after.object (pngKey sha256 image.1) = some image.2 := by
  -- The keys of the images are as distinct as their numbers.
  have keys : ((imageUploads sha256 pages embeddings images).map Prod.fst).Nodup := by
    have numbers := Table.nodup_filter distinct fun page =>
      decide (embeddingByPage pages embeddings page.1 ≠ none)
    simpa [PdfWorld.imageUploads, Function.comp_def] using
      numbers.map (pngKey_injective sha256)
  have uploaded : (pngKey sha256 image.1, image.2) ∈
      imageUploads sha256 pages embeddings images :=
    List.mem_map.mpr ⟨image, List.mem_filter.mpr ⟨member, by simpa using parsed⟩, rfl⟩
  rw [PdfWorld.object, uploads, Table.find?_reverse_append_key keys uploaded older]
  rfl

/-- The rendered pages that were parsed are carried by the contents they are indexed with. -/
theorem carriesPage_indexedPages (enough : embeddings.length = pages.length)
    (stored : ∀ image ∈ images, embeddingByPage pages embeddings image.1 ≠ none →
      after.object (pngKey sha256 image.1) = some image.2) :
    List.Forall₂ (CarriesPage after sha256 pages embeddings)
      (images.filter fun image => ∃ page ∈ pages, page.pageNo = (image.1 : Int))
      (indexedPages sha256 pages embeddings images) := by
  -- A page is skipped exactly when its number was not parsed.
  refine forall₂_filter_filterMap (fun image _ skipped => ?_) fun image member content given => ?_
  · simpa using (embeddingByPage_eq_none enough).mp (Option.map_eq_none_iff.mp skipped)
  · obtain ⟨embedding, found, rfl⟩ := Option.map_eq_some_iff.mp given
    have parsed : embeddingByPage pages embeddings image.1 ≠ none := by simp [found]
    obtain ⟨front, page, back, split, numbered, last, text, vector⟩ :=
      embeddingByPage_eq_some enough found
    refine ⟨?_, ?_⟩
    · simpa using (not_congr (embeddingByPage_eq_none enough)).mp parsed
    · exact
        { ordinal := rfl
          image_key := rfl
          link := rfl
          stored := stored image member parsed
          parsed := ⟨front, page, back, split, numbered, last, text, vector⟩ }

/-- Pages that are numbered in order are indexed in increasing order. -/
theorem indexedPages_increasing (numbers : (images.map Prod.fst).Pairwise (· < ·)) :
    ((indexedPages sha256 pages embeddings images).map fun content =>
      content.1.ordinal).Pairwise (· < ·) := by
  -- A content has the number of the page it was made of.
  rw [List.pairwise_map, indexedPages, List.pairwise_filterMap]
  refine (List.pairwise_map.mp numbers).imp fun less first made second alsoMade => ?_
  obtain ⟨_, _, rfl⟩ := Option.map_eq_some_iff.mp made
  obtain ⟨_, _, rfl⟩ := Option.map_eq_some_iff.mp alsoMade
  exact Int.ofNat_lt.mpr less

/-- An ingestion of a new file indexes each rendered page that was parsed, and nothing else. -/
theorem ingest_indexesPages
    (new : ∀ bytes, attempt.hashed = .ok bytes →
      before.store.getDocumentBySourceRef (library.sha256 bytes) = none)
    (numbered : NumberedFromOne attempt.rendered)
    (done : PdfWorld.ingest library attempt before = .ok document after) :
    ∃ pages embeddings images,
      IndexesPages attempt before after document pages embeddings images := by
  obtain ⟨⟨bytes, hashed, key⟩, ⟨_, known⟩ | added⟩ :=
    ingestPdf_eq_ok (PdfWorld.ingest_simulates.eq_ok done)
  · -- The file has no document that could have been returned.
    rw [key] at known
    cases (new bytes hashed).symm.trans known
  obtain ⟨pages, embeddings, images, parsed, _, embedded, enough, complete, indexed⟩ :=
    added.complete.pages_indexed
  -- The uploads are those of the same pages, embeddings and images.
  obtain ⟨pdfBytes, _, _, _, sameParsed, sameEmbedded, sameRendered, objects⟩ :=
    PdfWorld.objects_ingestNew (PdfWorld.ingest_new hashed (new bytes hashed) done)
  obtain rfl := Except.ok.inj (parsed.symm.trans sameParsed)
  obtain rfl := Except.ok.inj (embedded.symm.trans sameEmbedded)
  obtain rfl := List.map_injective_iff.mpr (fun _ _ => Except.ok.inj)
    (complete.rendered_all.symm.trans sameRendered)
  -- The renderer counts its pages, so no number comes twice.
  have ascending : (images.map Prod.fst).Pairwise (· < ·) := by
    rw [numbered images complete.rendered_all]
    exact List.pairwise_lt_range'
  have uploads : after.objects = (before.objects ++ [(pdfKey document.sourceRef, pdfBytes)]) ++
      PdfWorld.imageUploads document.sourceRef pages embeddings images := by
    rw [key, objects, List.append_assoc]
    rfl
  have contents : after.store.contentsOf document.id =
      indexedPages document.sourceRef pages embeddings images := indexed
  refine ⟨pages, embeddings, images, ?_⟩
  exact
    { parsed := parsed
      embedded := embedded
      one_each := enough
      rendered := complete.rendered_all
      carried := by
        rw [contents]
        exact carriesPage_indexedPages enough fun image member parsedPage =>
          object_of_imageUploads ascending.nodup uploads member parsedPage
      increasing := by
        rw [contents]
        exact indexedPages_increasing ascending
      none_before := by
        rw [added.row]
        exact before.store.contentsOf_next
      no_other := added.other_chunks }

/-- A file of three pages, each with an image of its own. -/
def pikeFile : RasterFile where
  -- The images differ, so that a mixed-up page would show.
  path := "manuals/pike.pdf"
  isFile := true
  dpi := 200
  installed := true
  opened := .ok ([1, 2, 3].map fun image => ⟨.ok (), fun _ => .ok [image], .ok ()⟩)
  closed := .ok ()

/-- An attempt on it that parsed the third page twice, the second not at all, and a fourth one. -/
def pikePagesAttempt : PdfAttempt :=
  -- Page three is parsed twice, page two not at all, and page four is never rendered.
  { pikeAttempt (renderPages pikeFile) with
    parsePdf := .ok [⟨3, "Top cap"⟩, ⟨1, "Contents"⟩, ⟨3, "Top cap 7.3 N-m"⟩, ⟨4, "Notes"⟩]
    embedDocuments texts := .ok (texts.map fun text => [text.length]) }

/-- What is indexed for the new document, and what is stored. -/
def indexedBy (outcome : EStateM.Result PdfFailure PdfWorld IndexedDocument) :
    Option (List (Int × String × Embedding) × List (String × List UInt8)) :=
  -- What is compared are the pages, their texts and vectors, and the uploads.
  match outcome with
  | .ok document world =>
    some ((world.store.contentsOf document.id).map fun content =>
      (content.1.ordinal, content.1.text, content.2), world.objects)
  | .error _ _ => none

/-- The first and the third page are indexed, the third with the text that was parsed last. -/
theorem ingest_indexesPages_pike :
    indexedBy (PdfWorld.ingest pikeLibrary pikePagesAttempt ⟨.empty, []⟩) =
      some ([(1, "Contents", [8]), (3, "Top cap 7.3 N-m", [15])],
        [(pdfKey pikeSha256, pikeBytes), (pngKey pikeSha256 1, [1]), (pngKey pikeSha256 3, [3])]) ∧
    ∃ document after pages embeddings images,
      PdfWorld.ingest pikeLibrary pikePagesAttempt ⟨.empty, []⟩ = .ok document after ∧
        IndexesPages pikePagesAttempt ⟨.empty, []⟩ after document pages embeddings images := by
  -- The run is evaluated once, and its result is the one that is indexed.
  have evaluated : indexedBy (PdfWorld.ingest pikeLibrary pikePagesAttempt ⟨.empty, []⟩) =
      some ([(1, "Contents", [8]), (3, "Top cap 7.3 N-m", [15])],
        [(pdfKey pikeSha256, pikeBytes), (pngKey pikeSha256 1, [1]),
          (pngKey pikeSha256 3, [3])]) := by
    decide +kernel
  refine ⟨evaluated, ?_⟩
  cases done : PdfWorld.ingest pikeLibrary pikePagesAttempt ⟨.empty, []⟩ with
  | error failure after =>
    rw [done] at evaluated
    cases evaluated
  | ok document after =>
    obtain ⟨pages, embeddings, images, aligned⟩ :=
      ingest_indexesPages (fun _ _ => rfl) (renderPages_numbered pikeFile) done
    exact ⟨document, after, pages, embeddings, images, rfl, aligned⟩

end TorqueFinder
