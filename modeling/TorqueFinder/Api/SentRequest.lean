import TorqueFinder.Api.MissingImages
import TorqueFinder.Extraction.RequestFormat
import TorqueFinder.Lib.PyTextLaws

/-! The message the route sends says which source has which number, and can be read back. -/

namespace TorqueFinder

open PyText ExceptFlow

/-- A source that is shown under a number is the page image or the module text of a hit. -/
def ShowsSource (services : ApiServices) (hit : RetrievedChunk) (number : Int)
    (source : ShownSource) : Prop :=
  match hit.sourceType with
  -- The source carries the label and the bytes, as they were fetched.
  | .pdf => ∃ key png, hit.pngR2Key = some key ∧ fetchPng services key = .ok png ∧
      source = .page number (pdfLabel hit) png
  | .html => ∃ text, moduleText services hit = .ok text ∧
      source = .passage number (htmlLabel text hit) text

/-- The module of a hit has a text to be seen. -/
def HasText (services : ApiServices) (hit : RetrievedChunk) : Prop :=
  hit.sourceType = .html → ∀ text, moduleText services hit = .ok text → strip text ≠ ""

variable {services : ApiServices} {hit : RetrievedChunk} {candidate : ExtractionCandidate}
  {retrieved : List RetrievedChunk} {candidates : List ExtractionCandidate}

/-- At most one source shows a hit under a number. -/
theorem ShowsSource.unique {number : Int} {first second : ShownSource}
    (left : ShowsSource services hit number first)
    (right : ShowsSource services hit number second) : first = second := by
  -- The image or the text is what the same fetch has returned.
  unfold ShowsSource at left right
  cases kind : hit.sourceType with
  | pdf =>
    rw [kind] at left right
    obtain ⟨key, png, stored, fetched, rfl⟩ := left
    obtain ⟨other, again, alsoStored, alsoFetched, rfl⟩ := right
    obtain rfl := Option.some.inj (stored.symm.trans alsoStored)
    obtain rfl := Except.ok.inj (fetched.symm.trans alsoFetched)
    rfl
  | html =>
    rw [kind] at left right
    obtain ⟨text, fetched, rfl⟩ := left
    obtain ⟨again, alsoFetched, rfl⟩ := right
    obtain rfl := Except.ok.inj (fetched.symm.trans alsoFetched)
    rfl

/-- Stripping adds no character. -/
theorem mem_of_mem_strip {char : Char} {text : String} (member : char ∈ (strip text).toList) :
    char ∈ text.toList := by
  -- Stripping drops characters at both ends only.
  rw [strip, toList_stripBy] at member
  exact (List.dropWhile_suffix _).subset ((List.rdropWhile_prefix _ _).subset member)

/-- The label of a text that can be seen is a single line. -/
theorem htmlLabel_single {text : String} (visible : strip text ≠ "") :
    '\n' ∉ (htmlLabel text hit).toList := by
  -- The first line is not blank, so the title of the document does not stand in for it.
  have first : strip (firstLine (strip text)) ≠ "" :=
    strip_firstLine_ne_empty (strip_strip text) visible
  have label : htmlLabel text hit =
      String.ofList ((if strip (firstLine (strip text)) = "" then hit.documentTitle
        else strip (firstLine (strip text))).toList.take labelMaxChars) := rfl
  rw [label, if_neg first, String.toList_ofList]
  intro inside
  have kept := mem_of_mem_strip (List.mem_of_mem_take inside)
  rw [firstLine, String.toList_ofList] at kept
  have different := List.mem_takeWhile_imp kept
  simp at different

/-- A candidate that was built for a hit is plain, and shows the hit under its number. -/
theorem shown_of_candidateOf {index : Nat} (visible : HasText services hit)
    (built : candidateOf services hit index = .ok candidate) :
    candidate.Plain ∧ ∃ source, candidate.shown = some source ∧
      ShowsSource services hit index source := by
  -- A page shows its image, and a section its module under a label of one line.
  unfold candidateOf at built
  unfold ShowsSource ExtractionCandidate.Plain ExtractionCandidate.shown
  cases kind : hit.sourceType with
  | pdf =>
    rw [kind] at built
    cases stored : hit.pngR2Key with
    | none => simp [stored] at built
    | some key =>
      rw [stored] at built
      obtain ⟨png, fetched, same⟩ := bind_eq_ok.mp built
      obtain rfl := pure_eq_ok.mp same
      refine ⟨fun other => ?_, _, rfl, key, png, rfl, fetched, rfl⟩
      cases other
  | html =>
    rw [kind] at built
    obtain ⟨text, fetched, same⟩ := bind_eq_ok.mp built
    obtain rfl := pure_eq_ok.mp same
    exact ⟨fun _ => htmlLabel_single (visible kind text fetched), _, rfl, text, fetched, rfl⟩

/-- Two lists that are related place by place to a third are so to each other. -/
theorem forall₂_trans {α β γ : Type*} {first : α → β → Prop} {second : β → γ → Prop}
    {left : List α} {middle : List β} {right : List γ} (before : List.Forall₂ first left middle)
    (behind : List.Forall₂ second middle right) :
    List.Forall₂ (fun input output => ∃ between, first input between ∧ second between output)
      left right := by
  -- Both relations are walked along the list in the middle.
  induction before generalizing right with
  | nil =>
    cases behind
    exact .nil
  | cons head tail ih =>
    cases behind with
    | cons also more => exact .cons ⟨_, head, also⟩ (ih more)

/-- The message for the hits of a search reads back as those hits in order, and the question. -/
theorem sentRequest_read {question : String} {request : List UserBlock}
    (visible : ∀ hit ∈ retrieved, HasText services hit)
    (built : buildCandidates services retrieved = .ok candidates)
    (sent : buildUserBlocks question candidates = .ok request) :
    ∃ sources, readRequest request = some (sources, question) ∧
      List.Forall₂ (fun numbered source => ShowsSource services numbered.1 numbered.2 source)
        (retrieved.zipIdx 1) sources := by
  have texts : ∀ numbered ∈ retrieved.zipIdx 1, HasText services numbered.1 :=
    fun numbered member => visible _ (List.fst_mem_of_mem_zipIdx member)
  have hits := ((List.forall₂_and_left _ _).mpr ⟨texts, mapM_eq_ok.mp built⟩).imp
    fun numbered candidate both => shown_of_candidateOf both.1 both.2
  have plain : ∀ candidate ∈ candidates, candidate.Plain := by
    intro candidate member
    obtain ⟨place, listed⟩ := List.mem_iff_getElem?.mp member
    obtain ⟨hit, located, presented⟩ := hit_of_candidate built listed
    exact (shown_of_candidateOf (visible hit (List.mem_of_getElem? located)) presented).1
  obtain ⟨sources, read, shown⟩ := readRequest_buildUserBlocks plain sent
  refine ⟨sources, read, (forall₂_trans hits shown).imp fun numbered source related => ?_⟩
  -- What a candidate shows is what was built for the hit at its place.
  obtain ⟨candidate, ⟨-, built, same, shows⟩, alsoShown⟩ := related
  exact Option.some.inj (same.symm.trans alsoShown) ▸ shows

/-- The page and the section that the services find for the question about both. -/
def pageAndSectionHits : List RetrievedChunk :=
  (pageAndSection.search topCapQuestion.toQuery).toOption.getD []

/-- The page and the section as candidates, in the order of the search. -/
def pageAndSectionCandidates : List ExtractionCandidate :=
  [{ index := 1, sourceType := .pdf, label := "p. 12 of pike.pdf"
     pngBytes := some [137, 80, 78, 71], documentTitle := some "pike.pdf" },
   { index := 2, sourceType := .html, label := "Top cap", text := some "Top cap\nTorque 7.3 Nm"
     documentTitle := some "Pike Manual" }]

/-- The message that asks about both of them. -/
def pageAndSectionRequest : List UserBlock :=
  -- The image comes before the text that numbers it.
  [.image "image/png" "iVBORw==", .text "Above is source 1: p. 12 of pike.pdf.",
   .text "Source 2: Top cap\n---\nTop cap\nTorque 7.3 Nm\n---",
   questionBlock topCapQuestion.question]

/-- What a reader of that message sees. -/
def pageAndSectionSources : List ShownSource :=
  [.page 1 "p. 12 of pike.pdf" [137, 80, 78, 71],
   .passage 2 "Top cap" "Top cap\nTorque 7.3 Nm"]

/-- The image of the page and the text of the section are read back under their numbers. -/
theorem sentRequest_read_section :
    pageAndSectionHits.length = 2 ∧
      readRequest pageAndSectionRequest =
        some (pageAndSectionSources, topCapQuestion.question) ∧
      List.Forall₂ (fun numbered source =>
          ShowsSource pageAndSection numbered.1 (numbered.2 : Nat) source)
        (pageAndSectionHits.zipIdx 1) pageAndSectionSources := by
  have visible : ∀ hit ∈ pageAndSectionHits, HasText pageAndSection hit := by
    -- Only the section has a module, whose text begins with its title.
    intro hit member kind text found
    change hit ∈ [_, _] at member
    rcases List.mem_pair.mp member with rfl | rfl
    · cases kind
    · obtain rfl : "Top cap\nTorque 7.3 Nm" = text := Except.ok.inj found
      decide +kernel
  have built : buildCandidates pageAndSection pageAndSectionHits =
      .ok pageAndSectionCandidates := by decide +kernel
  have sent : buildUserBlocks topCapQuestion.question pageAndSectionCandidates =
      .ok pageAndSectionRequest := by decide +kernel
  obtain ⟨sources, read, shown⟩ := sentRequest_read visible built sent
  -- Each of the two hits has one source that shows it.
  have both : List.Forall₂ (fun numbered source =>
      ShowsSource pageAndSection numbered.1 (numbered.2 : Nat) source)
      (pageAndSectionHits.zipIdx 1) pageAndSectionSources :=
    .cons ⟨"pages/pike-12.png", [137, 80, 78, 71], rfl, rfl, by decide +kernel⟩
      (.cons ⟨"Top cap\nTorque 7.3 Nm", rfl, by decide +kernel⟩ .nil)
  have unique : Relator.RightUnique fun (numbered : RetrievedChunk × Nat) source =>
      ShowsSource pageAndSection numbered.1 (numbered.2 : Nat) source :=
    fun _ _ _ => ShowsSource.unique
  obtain rfl : sources = pageAndSectionSources := List.right_unique_forall₂' unique shown both
  exact ⟨rfl, read, shown⟩

end TorqueFinder
