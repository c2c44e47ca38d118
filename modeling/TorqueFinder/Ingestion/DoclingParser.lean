import TorqueFinder.Ingestion.PdfPipeline

/-! The pages of a PDF as docling reports them, with the ways to get at their text. -/

namespace TorqueFinder

open PyText ExceptFlow

/-- An attribute that is taken for a page number unless it is falsy. -/
structure NumberAttribute where
  truthy : Bool
  /-- `int(value)`. -/
  int : Except PdfFailure Int

/-- A page of a converted document, where what is no text or raises an exception is nothing. -/
structure DoclingPage where
  pageNo : Option NumberAttribute := none
  page : Option NumberAttribute := none
  text : Option String := none
  markdown : Option String := none
  content : Option String := none
  /-- What the export methods of the page return. -/
  exportToMarkdown : Option String := none
  exportToText : Option String := none

/-- A converted document. -/
structure DoclingDocument where
  pages : List DoclingPage
  /-- `export_to_markdown(page_no=…)`. -/
  exportPage : Int → Option String
  /-- `export_to_markdown()` when it can be called: a text or not, or an exception. -/
  exportWhole : Option (Except Unit (Option String))

/-- The text of an attribute, when it has any that can be seen. -/
def visible (value : Option String) : Option String := value.filter fun text => strip text ≠ ""

/-- The number of the page at a place. -/
def DoclingPage.number (page : DoclingPage) (idx : Nat) : Except PdfFailure Int :=
  match page.pageNo.filter NumberAttribute.truthy with
  | some value => value.int
  -- A missing or zero attribute falls through to the next one.
  | none =>
    match page.page.filter NumberAttribute.truthy with
    | some value => value.int
    | none => .ok idx

/-- The first text of a page that can be seen, or the empty text. -/
def pageText (page : DoclingPage) (document : DoclingDocument) (pageNo : Int) : String :=
  -- The attributes come first, then the methods of the page, then that of the document.
  ([page.text, page.markdown, page.content, page.exportToMarkdown, page.exportToText,
    document.exportPage pageNo].findSome? visible).getD ""

/-- The pages of a document from a place on, without the blank ones. -/
def structuredPages (document : DoclingDocument) :
    Nat → List DoclingPage → Except PdfFailure (List ParsedPage)
  -- The place of a page counts blank pages as well.
  | _, [] => .ok []
  | idx, page :: rest => do
    let pageNo ← page.number idx
    let text := pageText page document pageNo
    let others ← structuredPages document (idx + 1) rest
    return if strip text = "" then others else ⟨pageNo, text⟩ :: others

/-- The pieces of a text between its form feeds. -/
def splitFormFeeds (text : String) : List String :=
  (text.toList.splitOn '\x0c').map String.ofList

/-- The pieces that can be seen, each with its place counted from one. -/
def numberedPieces (pieces : List String) : List ParsedPage :=
  -- A blank piece is dropped but keeps its number.
  (pieces.zipIdx 1).filterMap fun (piece, place) =>
    if strip piece = "" then none else some ⟨place, piece⟩

/-- The pages of a converted document. -/
def extractPages (document : DoclingDocument) : Except PdfFailure (List ParsedPage) := do
  let out ← structuredPages document 1 document.pages
  if out ≠ [] then return out
  -- Without a page that can be seen the whole text is cut into pages.
  match document.exportWhole with
  | none => return []
  | some (.error _) => pdfError "docling export_to_markdown failed"
  | some (.ok none) => return []
  | some (.ok (some text)) => return if text = "" then [] else numberedPieces (splitFormFeeds text)

/-- What one attempt to parse a file meets. -/
structure DoclingRun where
  path : String
  isFile : Bool
  /-- Getting the converter, which is built once. -/
  converter : Except PdfFailure Unit
  /-- The conversion: an exception, no document, or a document. -/
  convert : Except Unit (Option DoclingDocument)

/-- Extract the text of a PDF page by page. -/
def parsePdf (attempt : DoclingRun) : Except PdfFailure (List ParsedPage) := do
  if attempt.isFile = false then pdfError ("PDF not found: " ++ attempt.path)
  else
    attempt.converter
    match attempt.convert with
    | .error _ => pdfError ("docling failed to convert " ++ attempt.path)
    -- The converter may end without a document.
    | .ok none => pdfError ("docling produced no document for " ++ attempt.path)
    | .ok (some document) =>
      let pages ← extractPages document
      if pages = [] then pdfError ("docling produced no page text for " ++ attempt.path)
      else return pages

/-- A page of the document, with its number and its text. -/
def DoclingPage.parsed (document : DoclingDocument) (page : DoclingPage) (pageNo : Int) :
    ParsedPage := ⟨pageNo, pageText page document pageNo⟩

variable {document : DoclingDocument} {items : List DoclingPage} {idx : Nat}
  {pages : List ParsedPage} {page : ParsedPage} {pieces : List String} {attempt : DoclingRun}

/-- The pages of a document are its visible items, in their order and with their numbers. -/
theorem structuredPages_eq_ok (done : structuredPages document idx items = .ok pages) :
    ∃ numbers, List.Forall₂ (fun (item : DoclingPage × Nat) number =>
        item.1.number item.2 = .ok number) (items.zipIdx idx) numbers ∧
      pages = (items.zipWith (DoclingPage.parsed document) numbers).filter
        fun page => strip page.text ≠ "" := by
  -- Each item gives its number, and its page unless that is blank.
  induction items generalizing idx pages with
  | nil =>
    obtain rfl := Except.ok.inj done
    exact ⟨[], .nil, rfl⟩
  | cons item rest ih =>
    obtain ⟨pageNo, numbered, done⟩ := bind_eq_ok.mp done
    obtain ⟨others, read, done⟩ := bind_eq_ok.mp done
    obtain rfl := pure_eq_ok.mp done
    obtain ⟨numbers, all, rfl⟩ := ih read
    refine ⟨pageNo :: numbers, .cons numbered all, ?_⟩
    rw [List.zipWith_cons_cons, List.filter_cons]
    by_cases blank : strip (pageText item document pageNo) = ""
    · simp [DoclingPage.parsed, blank]
    · simp [DoclingPage.parsed, blank]

/-- The pieces of a text are put together again by form feeds. -/
theorem join_splitFormFeeds (text : String) :
    List.intercalate ['\x0c'] ((splitFormFeeds text).map String.toList) = text.toList := by
  -- The pieces are those of the library's split.
  have same : (splitFormFeeds text).map String.toList = text.toList.splitOn '\x0c' := by
    rw [splitFormFeeds, List.map_map]
    exact List.map_id'' (fun _ => String.toList_ofList) _
  rw [same, List.intercalate_splitOn]

/-- No piece contains the character it is cut at. -/
theorem not_mem_of_mem_splitOn {separator : Char} {text piece : List Char}
    (member : piece ∈ text.splitOn separator) : separator ∉ piece := by
  -- A character joins the first piece, unless it begins a new one.
  induction text generalizing piece with
  | nil =>
    rw [List.splitOn_nil, List.mem_singleton] at member
    rw [member]
    exact List.not_mem_nil
  | cons char rest ih =>
    rw [List.splitOn_cons_eq_if_modifyHead] at member
    split at member
    · rcases List.mem_cons.mp member with rfl | later
      · exact List.not_mem_nil
      · exact ih later
    · rename_i other
      cases cut : rest.splitOn separator with
      | nil => exact absurd cut (List.splitOn_ne_nil _ _)
      | cons head tail =>
        rw [cut, List.modifyHead_cons] at member
        rcases List.mem_cons.mp member with rfl | later
        · have first : separator ∉ head := ih (by rw [cut]; exact List.mem_cons_self)
          rw [List.mem_cons, not_or]
          refine ⟨fun same => other ?_, first⟩
          rw [← same]
          exact beq_self_eq_true separator
        · exact ih (by rw [cut]; exact List.mem_cons_of_mem _ later)

/-- A piece of a text has no form feed in it. -/
theorem not_mem_of_splitFormFeeds {text piece : String} (member : piece ∈ splitFormFeeds text) :
    '\x0c' ∉ piece.toList := by
  obtain ⟨chars, cut, rfl⟩ := List.mem_map.mp member
  rw [String.toList_ofList]
  exact not_mem_of_mem_splitOn cut

/-- The numbered pieces are those that can be seen, each with its place. -/
theorem mem_numberedPieces : page ∈ numberedPieces pieces ↔
    strip page.text ≠ "" ∧ ∃ place : Nat, page.pageNo = (place : Int) + 1 ∧
      pieces[place]? = some page.text := by
  constructor
  · intro member
    obtain ⟨⟨piece, number⟩, placed, made⟩ := List.mem_filterMap.mp member
    obtain ⟨first, found⟩ := List.mk_mem_zipIdx_iff_le_and_getElem?_sub.mp placed
    dsimp only at made
    -- The enumeration starts with one.
    split at made
    · cases made
    · rename_i seen
      obtain rfl := Option.some.inj made
      refine ⟨seen, number - 1, ?_, found⟩
      dsimp only
      omega
  · rintro ⟨seen, place, number, found⟩
    refine List.mem_filterMap.mpr ⟨(page.text, place + 1), ?_, ?_⟩
    · exact List.mk_mem_zipIdx_iff_le_and_getElem?_sub.mpr ⟨by omega, by simpa using found⟩
    · have same : page = ⟨(place + 1 : Nat), page.text⟩ := by
        cases page
        simpa using number
      dsimp only
      rw [if_neg seen, ← same]

/-- The numbered pieces stay in their order. -/
theorem numberedPieces_increasing (pieces : List String) :
    ((numberedPieces pieces).map ParsedPage.pageNo).Pairwise (· < ·) := by
  -- The places increase, and a piece that is kept carries its place.
  have places : (pieces.zipIdx 1).Pairwise fun first second => first.2 < second.2 := by
    have counted : ((pieces.zipIdx 1).map Prod.snd).Pairwise (· < ·) := by
      rw [List.zipIdx_map_snd]
      exact List.pairwise_lt_range'
    exact List.pairwise_map.mp counted
  rw [List.pairwise_map, numberedPieces, List.pairwise_filterMap]
  refine places.imp fun {first second} less page made other alsoMade => ?_
  dsimp only at made alsoMade
  split at made
  · cases made
  · split at alsoMade
    · cases alsoMade
    · obtain rfl := Option.some.inj made
      obtain rfl := Option.some.inj alsoMade
      exact Int.ofNat_lt.mpr less

/-- The pages are the items of the document that can be seen. -/
def Structured (document : DoclingDocument) (pages : List ParsedPage) : Prop :=
  -- The items are numbered one by one, and blank ones are dropped afterwards.
  ∃ numbers, List.Forall₂ (fun (item : DoclingPage × Nat) number =>
      item.1.number item.2 = .ok number) (document.pages.zipIdx 1) numbers ∧
    pages = (document.pages.zipWith (DoclingPage.parsed document) numbers).filter
      fun page => strip page.text ≠ ""

/-- The pages are the pieces of the whole text that can be seen, each with its place. -/
def CutFromText (document : DoclingDocument) (pages : List ParsedPage) : Prop :=
  -- Each piece is numbered by its place in the whole text.
  ∃ (text : String) (pieces : List String), document.exportWhole = some (.ok (some text)) ∧
    List.intercalate ['\x0c'] (pieces.map String.toList) = text.toList ∧
    (∀ piece ∈ pieces, '\x0c' ∉ piece.toList) ∧
    (pages.map ParsedPage.pageNo).Pairwise (· < ·) ∧
    ∀ page, page ∈ pages ↔ strip page.text ≠ "" ∧ ∃ place : Nat,
      page.pageNo = (place : Int) + 1 ∧ pieces[place]? = some page.text

/-- The pages of a document are its items, or cut from its text when no item can be seen. -/
theorem extractPages_eq_ok (done : extractPages document = .ok pages) :
    (∀ page ∈ pages, strip page.text ≠ "") ∧
      ((pages ≠ [] ∧ Structured document pages) ∨
        Structured document [] ∧ (pages ≠ [] → CutFromText document pages)) := by
  obtain ⟨out, read, done⟩ := bind_eq_ok.mp done
  have items := structuredPages_eq_ok read
  split at done
  · -- The items have given at least one page.
    rename_i some
    obtain rfl := pure_eq_ok.mp done
    refine ⟨?_, .inl ⟨some, items⟩⟩
    obtain ⟨numbers, -, rfl⟩ := items
    intro page member
    simpa using (List.mem_filter.mp member).2
  · -- Without any, the whole text is exported and cut.
    rename_i none
    obtain rfl := not_not.mp none
    -- Every way without a text ends with no page at all.
    have empty : (∀ page ∈ ([] : List ParsedPage), strip page.text ≠ "") ∧
        ((([] : List ParsedPage) ≠ [] ∧ Structured document []) ∨
          Structured document [] ∧ (([] : List ParsedPage) ≠ [] → CutFromText document [])) :=
      ⟨List.forall_mem_nil _, .inr ⟨items, fun some => absurd rfl some⟩⟩
    split at done
    · obtain rfl := pure_eq_ok.mp done
      exact empty
    · cases done
    · obtain rfl := pure_eq_ok.mp done
      exact empty
    · rename_i text exported
      obtain rfl := pure_eq_ok.mp done
      split
      · exact empty
      · refine ⟨fun page member => (mem_numberedPieces.mp member).1, .inr ⟨items, fun _ => ?_⟩⟩
        exact ⟨text, splitFormFeeds text, exported, join_splitFormFeeds text,
          fun piece member => not_mem_of_splitFormFeeds member, numberedPieces_increasing _,
          fun page => mem_numberedPieces⟩

/-- A visible text is embedded as it is, without the blanks around it. -/
theorem embedInput_eq_strip (seen : strip page.text ≠ "") : embedInput page = strip page.text :=
  if_neg seen

/-- What is parsed is extracted from the document that the file is converted to. -/
theorem extracted_of_parsePdf (parsed : parsePdf attempt = .ok pages) :
    pages ≠ [] ∧ ∃ document, attempt.convert = .ok (some document) ∧
      extractPages document = .ok pages := by
  unfold parsePdf at parsed
  split at parsed
  · cases parsed
  obtain ⟨_, _, parsed⟩ := bind_eq_ok.mp parsed
  -- Every other outcome of the conversion is an error.
  split at parsed
  · cases parsed
  · cases parsed
  · rename_i document converted
    obtain ⟨read, extracted, parsed⟩ := bind_eq_ok.mp parsed
    split at parsed
    · cases parsed
    · rename_i some
      obtain rfl := pure_eq_ok.mp parsed
      exact ⟨some, document, converted, extracted⟩

/-- What is parsed can be seen. -/
theorem seen_of_parsePdf (parsed : parsePdf attempt = .ok pages) :
    ∀ page ∈ pages, strip page.text ≠ "" := by
  -- Both ways drop blank pages.
  obtain ⟨-, document, -, extracted⟩ := extracted_of_parsePdf parsed
  exact (extractPages_eq_ok extracted).1

/-- What is parsed can be seen, and comes from the items of the document or from its whole text. -/
theorem parsePdf_pages (parsed : parsePdf attempt = .ok pages) :
    pages ≠ [] ∧ (∀ page ∈ pages, strip page.text ≠ "" ∧ embedInput page = strip page.text) ∧
    ∃ document, attempt.convert = .ok (some document) ∧
      (Structured document pages ∨ Structured document [] ∧ CutFromText document pages) := by
  obtain ⟨some, document, converted, extracted⟩ := extracted_of_parsePdf parsed
  have seen := seen_of_parsePdf parsed
  refine ⟨some, fun page member => ⟨seen page member, embedInput_eq_strip (seen page member)⟩,
    document, converted, ?_⟩
  -- Some page has been found, so the second way has cut a text.
  rcases (extractPages_eq_ok extracted).2 with ⟨-, items⟩ | ⟨none, cut⟩
  · exact .inl items
  · exact .inr ⟨none, cut some⟩

/-- A file whose pages give no text, and whose second page is blank in the whole text. -/
def formFeedRun : DoclingRun where
  -- The only item is blank, so the whole text is cut at its form feeds.
  path := "pike.pdf"
  isFile := true
  converter := .ok ()
  convert := .ok (some
    { pages := [{ text := some " " }]
      exportPage := fun _ => none
      exportWhole := some (.ok (some "Torque 10 N·m\x0c\n\x0cTorque 12 N·m")) })

/-- The blank page keeps its number, so the third piece is still page three. -/
theorem parsePdf_pages_formFeedRun :
    parsePdf formFeedRun = .ok [⟨1, "Torque 10 N·m"⟩, ⟨3, "Torque 12 N·m"⟩] ∧
      ∃ document, formFeedRun.convert = .ok (some document) ∧
        (Structured document [⟨1, "Torque 10 N·m"⟩, ⟨3, "Torque 12 N·m"⟩] ∨
          Structured document [] ∧
            CutFromText document [⟨1, "Torque 10 N·m"⟩, ⟨3, "Torque 12 N·m"⟩]) := by
  have parsed : parsePdf formFeedRun = .ok [⟨1, "Torque 10 N·m"⟩, ⟨3, "Torque 12 N·m"⟩] := by
    decide +kernel
  exact ⟨parsed, (parsePdf_pages parsed).2.2⟩

end TorqueFinder
