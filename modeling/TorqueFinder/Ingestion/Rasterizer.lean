import TorqueFinder.Ingestion.PdfPipeline

/-! Rendering the pages of a PDF, one after the other. -/

namespace TorqueFinder

/-- A page of a file that is open in the renderer. -/
structure RasterPage where
  /-- Taking the page out of the file. -/
  loaded : Except PdfFailure Unit
  /-- The page as an image, at some dots per inch. -/
  png : Int → Except PdfFailure (List UInt8)
  closed : Except PdfFailure Unit

/-- What the renderer meets. -/
structure RasterFile where
  path : String
  isFile : Bool
  dpi : Int
  /-- Whether the library of the renderer is there. -/
  installed : Bool
  opened : Except PdfFailure (List RasterPage)
  closed : Except PdfFailure Unit

/-- A failure, unless the clean-up behind it fails too. -/
def failureBehind (cleanUp : Except PdfFailure Unit) (failure : PdfFailure) : PdfFailure :=
  -- An exception while closing replaces the one that is on its way.
  match cleanUp with
  | .ok () => failure
  | .error later => later

/-- Render the pages from an index on, up to the first failure. -/
def renderFrom (file : RasterFile) :
    Nat → List RasterPage → List (Except PdfFailure (Nat × List UInt8))
  | _, [] =>
    match file.closed with
    | .ok () => []
    | .error failure => [.error failure]
  | idx, page :: rest =>
    match page.loaded with
    | .error failure => [.error (failureBehind file.closed failure)]
    | .ok () =>
      match page.png file.dpi with
      | .error _ =>
        let failure := .ingestion ⟨"pypdfium2 failed to render page " ++ toString (idx + 1) ++
          " of " ++ file.path⟩
        [.error (failureBehind file.closed (failureBehind page.closed failure))]
      -- The page is closed when the next one is asked for.
      | .ok png => .ok (idx + 1, png) ::
        match page.closed with
        | .error failure => [.error (failureBehind file.closed failure)]
        | .ok () => renderFrom file (idx + 1) rest

/-- Yield the number and the image of every page. -/
def renderPages (file : RasterFile) : List (Except PdfFailure (Nat × List UInt8)) :=
  -- The checks stand before the file is opened, and the first that fails is raised.
  if file.isFile = false then [pdfError ("PDF not found: " ++ file.path)]
  else if file.dpi ≤ 0 then [pdfError ("dpi must be positive, got " ++ toString file.dpi)]
  else if file.installed = false then [pdfError "pypdfium2 is not installed"]
  else
    match file.opened with
    | .error _ => [pdfError ("pypdfium2 failed to open " ++ file.path)]
    | .ok pages => renderFrom file 0 pages

/-- Pages that are all yielded are numbered from one. -/
def NumberedFromOne (rendered : List (Except PdfFailure (Nat × List UInt8))) : Prop :=
  -- The numbers are consecutive, whatever the pages look like.
  ∀ images : List (Nat × List UInt8), rendered = images.map .ok →
    images.map Prod.fst = List.range' 1 images.length

variable {file : RasterFile} {idx : Nat} {pages : List RasterPage}
  {images : List (Nat × List UInt8)}

/-- A list of images is no single failure. -/
theorem singleton_error_ne {failure : PdfFailure} :
    [Except.error failure] ≠ images.map Except.ok := by
  intro same
  cases images with
  | nil => cases same
  | cons image others => cases same

/-- Pages that are all rendered from an index on carry the numbers behind it, in order. -/
theorem renderFrom_eq_ok (done : renderFrom file idx pages = images.map .ok) :
    pages.map (fun page => page.png file.dpi) = images.map (fun image => .ok image.2) ∧
      images.map Prod.fst = List.range' (idx + 1) images.length := by
  -- A page that fails anywhere leaves its failure as the last thing yielded.
  induction pages generalizing idx images with
  | nil =>
    unfold renderFrom at done
    split at done
    · obtain rfl := List.map_eq_nil_iff.mp done.symm
      exact ⟨rfl, rfl⟩
    · exact absurd done singleton_error_ne
  | cons page rest ih =>
    unfold renderFrom at done
    split at done
    · exact absurd done singleton_error_ne
    split at done
    · exact absurd done singleton_error_ne
    rename_i png rendered
    cases images with
    | nil => cases done
    | cons image others =>
      obtain ⟨first, behind⟩ := List.cons.inj done
      obtain rfl := Except.ok.inj first
      split at behind
      · exact absurd behind singleton_error_ne
      obtain ⟨contents, numbers⟩ := ih behind
      constructor
      · rw [List.map_cons, List.map_cons, rendered, contents]
      · rw [List.map_cons, numbers, List.length_cons, List.range'_succ]

/-- A file whose pages are all yielded is open, and each page yields its own image. -/
theorem renderPages_eq_ok (done : renderPages file = images.map .ok) :
    ∃ pages, file.opened = .ok pages ∧
      pages.map (fun page => page.png file.dpi) = images.map (fun image => .ok image.2) ∧
        images.map Prod.fst = List.range' 1 images.length := by
  -- Every way to fail before the first page yields that failure alone.
  unfold renderPages at done
  split at done
  · exact absurd done singleton_error_ne
  split at done
  · exact absurd done singleton_error_ne
  split at done
  · exact absurd done singleton_error_ne
  split at done
  · exact absurd done singleton_error_ne
  rename_i pages opened
  exact ⟨pages, opened, renderFrom_eq_ok done⟩

/-- The renderer numbers its pages from one. -/
theorem renderPages_numbered (file : RasterFile) : NumberedFromOne (renderPages file) := by
  -- Without a failure every page has been rendered.
  intro images done
  obtain ⟨_, _, _, numbers⟩ := renderPages_eq_ok done
  exact numbers

end TorqueFinder
