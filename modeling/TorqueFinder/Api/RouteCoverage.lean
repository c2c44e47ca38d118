import TorqueFinder.Api.RouteExceptions

/-! Which exceptions of a request's collaborators reach the client as gateway errors. -/

namespace TorqueFinder

open ExceptFlow

/-- The steps of a request at which it calls a collaborator. -/
inductive Step where
  | search
  | signImage
  | download
  | moduleText
  | extraction
  | signLink
  deriving DecidableEq

namespace Collaborators

variable (collaborators : Collaborators) (body : QueryRequest)

/-- Making a link of a key raises: there is no public URL, and signing raises. -/
def SigningRaises (key : String) (exception : Raised) : Prop :=
  -- A link is only signed when there is no public one.
  (∃ missing, collaborators.publicUrl key = .error missing) ∧
    collaborators.generatePresignedUrl key presignTtlSeconds = .error exception

/-- Calling for what presents a hit raises at a step. -/
inductive PresentingRaises (hit : RetrievedChunk) : Step → Raised → Prop where
  | signImage {key : String} {exception : Raised} (kind : hit.sourceType = .pdf)
      (stored : hit.pngR2Key = some key)
      (raised : collaborators.generatePresignedUrl key 300 = .error exception) :
      PresentingRaises hit .signImage exception
  | download {key url : String} {exception : Raised} (kind : hit.sourceType = .pdf)
      (stored : hit.pngR2Key = some key)
      (signed : collaborators.generatePresignedUrl key 300 = .ok url)
      (raised : collaborators.httpGet url = .error exception) :
      PresentingRaises hit .download exception
  | moduleText {anchor : String} {exception : Raised} (kind : hit.sourceType = .html)
      (owner : hit.parentAnchor = some anchor)
      (raised : collaborators.fetchModuleText hit.documentId anchor = .error exception) :
      PresentingRaises hit .moduleText exception

/-- Making the links of a hit raises: that of its document, or then that of its image. -/
inductive LinkingRaises (hit : RetrievedChunk) : Raised → Prop where
  | document {exception : Raised} (kind : hit.sourceType = .pdf)
      (raised : collaborators.SigningRaises hit.documentSourceUrl exception) :
      LinkingRaises hit exception
  | screenshot {key url : String} {exception : Raised} (kind : hit.sourceType = .pdf)
      (linked : collaborators.resolveUrl hit.documentSourceUrl = .ok url)
      (stored : hit.pngR2Key = some key) (filled : key ≠ "")
      (raised : collaborators.SigningRaises key exception) :
      LinkingRaises hit exception

/-- The first call of a request that raises, by its step and what it raises. -/
inductive RaisesAt : Step → Raised → Prop where
  | search {exception : Raised} (raised : collaborators.search body.toQuery = .error exception) :
      RaisesAt .search exception
  -- The hits are presented in order, up to the one whose call raises.
  | presenting {front back : List RetrievedChunk} {hit : RetrievedChunk}
      {before : List ExtractionCandidate} {step : Step} {exception : Raised}
      (searched : collaborators.search body.toQuery = .ok (front ++ hit :: back))
      (presented : collaborators.buildCandidates front = .ok before)
      (raised : collaborators.PresentingRaises hit step exception) : RaisesAt step exception
  | extraction {retrieved : List RetrievedChunk} {candidates : List ExtractionCandidate}
      {exception : Raised} (searched : collaborators.search body.toQuery = .ok retrieved)
      (some : retrieved ≠ []) (built : collaborators.buildCandidates retrieved = .ok candidates)
      (raised : collaborators.extract body.question candidates = .error exception) :
      RaisesAt .extraction exception
  -- After the answer the hits are linked in order, up to the one whose link raises.
  | linking {front back : List RetrievedChunk} {hit : RetrievedChunk}
      {candidates : List ExtractionCandidate} {answer : Answer} {exception : Raised}
      (searched : collaborators.search body.toQuery = .ok (front ++ hit :: back))
      (built : collaborators.buildCandidates (front ++ hit :: back) = .ok candidates)
      (extracted : collaborators.extract body.question candidates = .ok answer)
      (linked : ∀ earlier ∈ front, ∃ links, collaborators.sourceLinks earlier = .ok links)
      (raised : collaborators.LinkingRaises hit exception) : RaisesAt .signLink exception

/-- The client gets an HTTP exception with status 502 or 503. -/
def Mapped : Prop :=
  -- The exception became a response that names the failure.
  ∃ exception, collaborators.query body = .error (.http exception) ∧
    (exception.status = 502 ∨ exception.status = 503)

end Collaborators

/-- The handlers of the try statement a step stands in. -/
def handlerAt : Step → Raised → Option HttpException
  | .search => searchHandler
  | .signImage => imageHandler
  | .download => imageHandler
  | .extraction => extractionHandler
  -- The last two steps stand outside every handler.
  | .moduleText => fun _ => none
  | .signLink => fun _ => none

/-- What a step's exception becomes when it leaves the route. -/
def exitAt (step : Step) (exception : Raised) : Exit :=
  match handlerAt step exception with
  | some http => .http http
  -- What no handler names ends the request as it is.
  | none => .unhandled exception

/-- The exceptions that are named around the step at which they are raised. -/
def Covered : Step → Raised → Prop
  -- Each handler names one kind of exception.
  | .search, .retrieval _ => True
  | .signImage, .httpx => True
  | .download, .httpx => True
  | .extraction, .extraction _ => True
  | _, _ => False

/-- A covered exception leaves the route as a gateway error, and no other exception does. -/
theorem covered_iff (step : Step) (exception : Raised) :
    Covered step exception ↔ ∃ http, exitAt step exception = .http http ∧
      (http.status = 502 ∨ http.status = 503) := by
  -- Each handler names one family, and gives each of its members one of the two statuses.
  cases step <;> cases exception <;> try simp [Covered, exitAt, handlerAt, searchHandler,
    imageHandler, extractionHandler]
  rename_i error
  cases error <;> simp

section Runs

variable {collaborators : Collaborators} {body : QueryRequest} {hit : RetrievedChunk}
  {step : Step} {exception : Raised}

/-- Presenting a hit whose call raises ends with that call's exit. -/
theorem candidateOf_of_raises (raised : collaborators.PresentingRaises hit step exception)
    (index : Nat) : collaborators.candidateOf hit index = .error (exitAt step exception) := by
  -- The call is the first thing presenting the hit does that can fail.
  cases raised with
  | signImage kind stored raised =>
    simp only [Collaborators.candidateOf, kind, stored, Collaborators.fetchPng, raised, error_bind]
    rfl
  | download kind stored signed raised =>
    simp only [Collaborators.candidateOf, kind, stored, Collaborators.fetchPng, signed, ok_bind,
      raised]
    rfl
  | moduleText kind owner raised =>
    simp only [Collaborators.candidateOf, kind, Collaborators.moduleText, owner, raised]
    rfl

/-- Presenting a hit fails where a call raises, or at a page without an image. -/
theorem raises_of_candidateOf {index : Nat} {exit : Exit}
    (failed : collaborators.candidateOf hit index = .error exit) :
    (∃ step exception, collaborators.PresentingRaises hit step exception ∧
      exit = exitAt step exception) ∨ (hit.sourceType = .pdf ∧ hit.pngR2Key = none) := by
  cases kind : hit.sourceType with
  | pdf =>
    cases stored : hit.pngR2Key with
    | none => exact Or.inr ⟨rfl, rfl⟩
    | some key =>
      simp only [Collaborators.candidateOf, kind, stored, Collaborators.fetchPng] at failed
      -- Either signing the key raises, or reading the signed URL does.
      cases signed : collaborators.generatePresignedUrl key 300 with
      | error exception =>
        rw [signed] at failed
        exact Or.inl ⟨_, exception, .signImage kind stored signed, (Except.error.inj failed).symm⟩
      | ok url =>
        rw [signed, ok_bind] at failed
        cases got : collaborators.httpGet url with
        | error exception =>
          rw [got] at failed
          exact Or.inl ⟨_, exception, .download kind stored signed got,
            (Except.error.inj failed).symm⟩
        | ok png =>
          rw [got] at failed
          cases failed
  -- A section without a parent is shown by its own text.
  | html =>
    simp only [Collaborators.candidateOf, kind, Collaborators.moduleText] at failed
    cases owner : hit.parentAnchor with
    | none =>
      rw [owner] at failed
      cases failed
    | some anchor =>
      rw [owner] at failed
      cases read : collaborators.fetchModuleText hit.documentId anchor with
      | error exception =>
        simp only [read] at failed
        exact Or.inl ⟨_, exception, .moduleText kind owner read, (Except.error.inj failed).symm⟩
      | ok text =>
        simp only [read] at failed
        cases failed

/-- Making a link fails exactly when signing raises, and the exception is not handled. -/
theorem resolveUrl_eq_error {key : String} {exit : Exit} :
    collaborators.resolveUrl key = .error exit ↔
      ∃ exception, collaborators.SigningRaises key exception ∧ exit = .unhandled exception := by
  -- A public URL cannot fail, and the exception of a missing one is dropped.
  unfold Collaborators.resolveUrl Collaborators.SigningRaises
  cases collaborators.publicUrl key with
  | ok url => simp
  | error missing =>
    cases collaborators.generatePresignedUrl key presignTtlSeconds with
    | ok url => simp [unguarded, handling, Except.mapError]
    | error exception => simp [unguarded, handling, Except.mapError, eq_comm]

/-- The links of a hit fail exactly when one of them raises, and the exception is not handled. -/
theorem sourceLinks_eq_error {exit : Exit} :
    collaborators.sourceLinks hit = .error exit ↔
      ∃ exception, collaborators.LinkingRaises hit exception ∧ exit = .unhandled exception := by
  constructor
  · intro failed
    cases kind : hit.sourceType with
    -- The links of a section are stored and need no signing.
    | html =>
      simp only [Collaborators.sourceLinks, kind] at failed
      cases failed
    | pdf =>
      simp only [Collaborators.sourceLinks, kind] at failed
      rcases bind_eq_error.mp failed with document | ⟨url, linked, rest⟩
      · obtain ⟨exception, raised, rfl⟩ := resolveUrl_eq_error.mp document
        exact ⟨exception, .document kind raised, rfl⟩
      -- After the document only the image of a key that is not empty is linked.
      · rcases bind_eq_error.mp rest with screenshot | ⟨_, _, built⟩
        · cases stored : hit.pngR2Key with
          | none =>
            rw [stored] at screenshot
            cases screenshot
          | some key =>
            rw [stored] at screenshot
            by_cases filled : key = ""
            · simp [filled] at screenshot
            · have failed : collaborators.resolveUrl key = .error exit := by
                cases resolved : collaborators.resolveUrl key with
                | ok page => simp [filled, resolved, Functor.map, Except.map] at screenshot
                | error other =>
                  simpa [filled, resolved, Functor.map, Except.map] using screenshot
              obtain ⟨exception, raised, rfl⟩ := resolveUrl_eq_error.mp failed
              exact ⟨exception, .screenshot kind linked stored filled raised, rfl⟩
        · cases built
  · -- Conversely, a step that raises is the first to do so.
    intro raises
    obtain ⟨exception, raised, rfl⟩ := raises
    cases raised with
    | document kind raised =>
      have failed := resolveUrl_eq_error.mpr ⟨exception, raised, rfl⟩
      simp only [Collaborators.sourceLinks, kind, failed, error_bind]
    | screenshot kind linked stored filled raised =>
      have failed := resolveUrl_eq_error.mpr ⟨exception, raised, rfl⟩
      simp only [Collaborators.sourceLinks, kind, linked, ok_bind, stored, if_neg filled, failed]
      rfl

/-- The entry of a hit fails exactly as its links do. -/
theorem responseCandidate_eq_error {candidate : ExtractionCandidate} {exit : Exit} :
    collaborators.responseCandidate hit candidate = .error exit ↔
      collaborators.sourceLinks hit = .error exit := by
  -- Only the links of a candidate can fail.
  unfold Collaborators.responseCandidate
  cases collaborators.sourceLinks hit with
  | error other => simp
  | ok links => simp [pure, Except.pure]

/-- As many candidates are built as there are hits. -/
theorem length_of_built {retrieved : List RetrievedChunk}
    {candidates : List ExtractionCandidate}
    (built : collaborators.buildCandidates retrieved = .ok candidates) :
    candidates.length = retrieved.length := by
  -- One candidate was built for each hit.
  have paired := (mapM_eq_ok.mp built).length_eq
  simpa using paired.symm

/-- Presenting the hits in order ends with the exit of the first one that fails. -/
theorem buildCandidates_of_failed {front back : List RetrievedChunk}
    {before : List ExtractionCandidate} {exit : Exit}
    (presented : collaborators.buildCandidates front = .ok before)
    (failed : ∀ index, collaborators.candidateOf hit index = .error exit) :
    collaborators.buildCandidates (front ++ hit :: back) = .error exit := by
  -- The hits in front keep their numbers.
  rw [Collaborators.buildCandidates, List.zipIdx_append, List.zipIdx_cons]
  exact mapM_error_of_first (mapM_ok_iff.mp ⟨before, presented⟩) (failed _)

/-- Linking the hits in order ends with the exit of the first one whose links raise. -/
theorem responseCandidates_of_raises {front back : List RetrievedChunk}
    {candidates : List ExtractionCandidate}
    (length : candidates.length = (front ++ hit :: back).length)
    (linked : ∀ earlier ∈ front, ∃ links, collaborators.sourceLinks earlier = .ok links)
    (raised : collaborators.LinkingRaises hit exception) :
    collaborators.responseCandidates (front ++ hit :: back) candidates =
      .error (.unhandled exception) := by
  -- The candidates split at the same place as the hits.
  have bound : front.length < candidates.length := by
    rw [length, List.length_append, List.length_cons]
    omega
  have cut : candidates = candidates.take front.length ++
      candidates[front.length] :: candidates.drop (front.length + 1) := by
    rw [List.getElem_cons_drop, List.take_append_drop]
  have same : front.length = (candidates.take front.length).length := by
    rw [List.length_take]
    omega
  rw [Collaborators.responseCandidates, cut, List.zip_append same, List.zip_cons_cons]
  refine mapM_error_of_first ?_ ?_
  · intro paired member
    obtain ⟨links, resolved⟩ := linked _ (List.of_mem_zip member).1
    exact ⟨_, by simp only [Collaborators.responseCandidate, resolved, ok_bind]; rfl⟩
  · exact responseCandidate_eq_error.mpr (sourceLinks_eq_error.mpr ⟨exception, raised, rfl⟩)

/-- A request ends with the exit of the first call that raises. -/
theorem query_of_raisesAt (raises : collaborators.RaisesAt body step exception) :
    collaborators.query body = .error (exitAt step exception) := by
  cases raises with
  | search raised =>
    rw [Collaborators.query, raised]
    rfl
  | @presenting front back hit before _ _ searched presented raised =>
    -- The search found the hit, so there are hits to present.
    have failed : collaborators.buildCandidates (front ++ hit :: back) = _ :=
      buildCandidates_of_failed presented (candidateOf_of_raises raised)
    simp only [Collaborators.query, searched, handling, Except.mapError, ok_bind, failed,
      if_neg (List.append_ne_nil_of_right_ne_nil _ (List.cons_ne_nil _ _)), error_bind]
  | extraction searched some built raised =>
    simp only [Collaborators.query, searched, handling, Except.mapError, ok_bind, if_neg some,
      built, raised]
    rfl
  | linking searched built extracted linked raised =>
    have failed := responseCandidates_of_raises (length_of_built built) linked raised
    simp only [Collaborators.query, searched, handling, Except.mapError, ok_bind, built, extracted,
      if_neg (List.append_ne_nil_of_right_ne_nil _ (List.cons_ne_nil _ _)), failed, error_bind]
    rfl

/-- Presenting the hits fails at a raising call, or at a page without an image. -/
theorem raises_of_buildCandidates {retrieved : List RetrievedChunk} {exit : Exit}
    (searched : collaborators.search body.toQuery = .ok retrieved)
    (failed : collaborators.buildCandidates retrieved = .error exit) :
    (∃ step exception, collaborators.RaisesAt body step exception ∧
      exit = exitAt step exception) ∨ ∃ detail, exit = .http ⟨500, detail, []⟩ := by
  obtain ⟨front, ⟨hit, index⟩, back, split, before, unpresented⟩ := first_of_mapM_error failed
  -- The numbers are dropped from both sides of the split.
  have hits : retrieved = front.map Prod.fst ++ hit :: back.map Prod.fst := by
    have dropped := congrArg (List.map Prod.fst) split
    rwa [List.zipIdx_map_fst, List.map_append, List.map_cons] at dropped
  have numbered : (front.map Prod.fst).zipIdx 1 = front := by
    rw [hits, List.zipIdx_append] at split
    exact List.append_inj_left split (by simp)
  obtain ⟨presented, built⟩ : ∃ candidates,
      collaborators.buildCandidates (front.map Prod.fst) = .ok candidates := by
    rw [Collaborators.buildCandidates, numbered]
    exact mapM_ok_of_forall before
  rcases raises_of_candidateOf unpresented with ⟨step, exception, raised, rfl⟩ | ⟨kind, absent⟩
  · exact Or.inl ⟨step, exception, .presenting (hits ▸ searched) built raised, rfl⟩
  · simp only [Collaborators.candidateOf, kind, absent] at unpresented
    exact Or.inr ⟨_, (Except.error.inj unpresented).symm⟩

/-- Linking the hits fails at a raising call. -/
theorem raises_of_responseCandidates {retrieved : List RetrievedChunk}
    {candidates : List ExtractionCandidate} {answer : Answer} {exit : Exit}
    (searched : collaborators.search body.toQuery = .ok retrieved)
    (built : collaborators.buildCandidates retrieved = .ok candidates)
    (extracted : collaborators.extract body.question candidates = .ok answer)
    (failed : collaborators.responseCandidates retrieved candidates = .error exit) :
    ∃ exception, collaborators.RaisesAt body .signLink exception ∧
      exit = exitAt .signLink exception := by
  obtain ⟨front, ⟨hit, candidate⟩, back, split, before, unlinked⟩ := first_of_mapM_error failed
  -- The candidates are dropped from both sides of the split.
  have hits : retrieved = front.map Prod.fst ++ hit :: back.map Prod.fst := by
    have dropped := congrArg (List.map Prod.fst) split
    rwa [List.map_fst_zip (length_of_built built).ge, List.map_append, List.map_cons] at dropped
  have linked : ∀ earlier ∈ front.map Prod.fst,
      ∃ links, collaborators.sourceLinks earlier = .ok links := by
    intro earlier member
    obtain ⟨⟨_, shown⟩, inside, rfl⟩ := List.mem_map.mp member
    obtain ⟨entry, done⟩ := before _ inside
    obtain ⟨links, resolved, _⟩ := bind_eq_ok.mp done
    exact ⟨links, resolved⟩
  obtain ⟨exception, raised, rfl⟩ :=
    sourceLinks_eq_error.mp (responseCandidate_eq_error.mp unlinked)
  exact ⟨exception, .linking (hits ▸ searched) (hits ▸ built) extracted linked raised, rfl⟩

/-- Once every hit was presented and linked, only a number without a hit is left to fail. -/
theorem respond_eq_error {retrieved : List RetrievedChunk}
    {candidates : List ExtractionCandidate} {entries : List Candidate} {answer : Answer}
    {exit : Exit} (built : collaborators.buildCandidates retrieved = .ok candidates)
    (failed : collaborators.respond retrieved entries answer = .error exit) :
    exit = .unhandled .other := by
  unfold Collaborators.respond at failed
  cases abstained : answer.abstained with
  -- An abstention cites nothing.
  | true => simp [abstained] at failed
  | false =>
    cases cited : answer.sourceIndex with
    | none => simp [abstained, cited] at failed
    | some index =>
      cases located : retrieved[(index.val - 1).toNat]? with
      -- An index out of range is an exception of the list.
      | none =>
        simp only [abstained, cited, located] at failed
        exact (Except.error.inj failed).symm
      | some chosen =>
        cases listed : entries[(index.val - 1).toNat]? with
        | none =>
          simp only [abstained, cited, located, listed] at failed
          exact (Except.error.inj failed).symm
        | some entry =>
          -- A presented page has its image, so its links are those of its entry.
          have imaged : ¬ (chosen.sourceType = .pdf ∧ chosen.pngR2Key = none) := by
            intro bare
            have numbered : (retrieved.zipIdx 1)[(index.val - 1).toNat]? =
                some (chosen, 1 + (index.val - 1).toNat) := by
              rw [List.getElem?_zipIdx, located]
              rfl
            obtain ⟨candidate, _, presented⟩ := output_of_mapM_eq_ok built numbered
            simp only [Collaborators.candidateOf, bare.1, bare.2] at presented
            cases presented
          simp only [abstained, cited, located, listed, if_neg imaged] at failed
          cases failed

/-- A request that does not end in a response ended at a raising call or at the route itself. -/
theorem raises_of_query {exit : Exit} (failed : collaborators.query body = .error exit) :
    (∃ step exception, collaborators.RaisesAt body step exception ∧
      exit = exitAt step exception) ∨
    (∃ detail, exit = .http ⟨404, detail, []⟩ ∨ exit = .http ⟨500, detail, []⟩) ∨
    exit = .unhandled .other := by
  rcases bind_eq_error.mp failed with unsearched | ⟨retrieved, found, rest⟩
  · cases searched : collaborators.search body.toQuery with
    | ok retrieved => simp [searched, handling, Except.mapError] at unsearched
    | error exception =>
      rw [searched] at unsearched
      exact Or.inl ⟨.search, exception, .search searched, (Except.error.inj unsearched).symm⟩
  have searched : collaborators.search body.toQuery = .ok retrieved := mapError_eq_ok.mp found
  -- No hit is answered before anything is built.
  split at rest
  · exact Or.inr (Or.inl ⟨_, Or.inl (Except.error.inj rest).symm⟩)
  rename_i some
  -- Each later step fails for a reason of its own.
  rcases bind_eq_error.mp rest with unbuilt | ⟨candidates, built, rest⟩
  · rcases raises_of_buildCandidates searched unbuilt with raised | ⟨detail, refused⟩
    · exact Or.inl raised
    · exact Or.inr (Or.inl ⟨detail, Or.inr refused⟩)
  rcases bind_eq_error.mp rest with unextracted | ⟨answer, extraction, rest⟩
  · cases extracted : collaborators.extract body.question candidates with
    | ok answer => simp [extracted, handling, Except.mapError] at unextracted
    | error exception =>
      rw [extracted] at unextracted
      exact Or.inl ⟨.extraction, exception, .extraction searched some built extracted,
        (Except.error.inj unextracted).symm⟩
  have extracted : collaborators.extract body.question candidates = .ok answer :=
    mapError_eq_ok.mp extraction
  rcases bind_eq_error.mp rest with unlinked | ⟨entries, linked, responded⟩
  · -- A link is signed after the answer has been extracted.
    obtain ⟨exception, raised, left⟩ :=
      raises_of_responseCandidates searched built extracted unlinked
    exact Or.inl ⟨.signLink, exception, raised, left⟩
  · exact Or.inr (Or.inr (respond_eq_error built responded))

/-- Every raised exception reaches the client as a gateway error when it is named at its step. -/
theorem mapped_iff_covered (raises : collaborators.RaisesAt body step exception) :
    collaborators.Mapped body ↔ Covered step exception := by
  -- The run ends at the step where the exception was raised.
  rw [Collaborators.Mapped, query_of_raisesAt raises, covered_iff]
  simp only [Except.error.injEq]

/-- The expected failures of a request are all mapped exactly when each is named at its step. -/
theorem expected_mapped_iff (collaborators : Collaborators) (body : QueryRequest) :
    (∀ step exception, collaborators.RaisesAt body step exception → exception.IsExpected →
      collaborators.Mapped body) ↔
    ∀ step exception, collaborators.RaisesAt body step exception → exception.IsExpected →
      Covered step exception := by
  -- The equivalence holds step by step and exception by exception.
  refine forall₂_congr fun step exception => forall₂_congr fun raises _ => ?_
  exact mapped_iff_covered raises

end Runs

/-- A page of a manual, with its image. -/
def pikePage : RetrievedChunk where
  chunkId := 1
  documentId := 1
  sourceType := .pdf
  documentTitle := "pike.pdf"
  documentSourceUrl := "pdfs/pike.pdf"
  ordinal := 12
  text := "Torque 7.3 Nm"
  pngR2Key := some "pages/pike-12.png"
  anchor := none
  parentAnchor := none
  sourceUrl := "pdfs/pike.pdf"
  score := 1 / 61
  source := .keyword
  productFamily := some "pike"
  brand := none

/-- The exception the asset client raises for a key it cannot sign. -/
def unsigned (key : String) : Raised :=
  .ingestion ⟨"R2 presigned URL generation failed for key '" ++ key ++ "'"⟩

/-- Collaborators that find the page, while the asset store signs nothing. -/
def unsignedPage : Collaborators where
  search _ := .ok [pikePage]
  fetchModuleText _ _ := .ok ""
  extract _ _ := .error (.extraction (.malformed "no answer"))
  publicUrl key := .ok ("https://assets.example/" ++ key)
  -- Every public link is configured, but no link can be signed.
  generatePresignedUrl key _ := .error (unsigned key)
  httpGet _ := .error .httpx

/-- A question about the page. -/
def unsignedQuestion : QueryRequest where
  question := "pike lower leg torque?"
  topK := 3

/-- The asset client's own exception leaves the route unhandled. -/
theorem not_expected_mapped :
    ¬ ∀ (collaborators : Collaborators) (body : QueryRequest) (step : Step) (exception : Raised),
      collaborators.RaisesAt body step exception → exception.IsExpected →
      collaborators.Mapped body := by
  intro always
  have searched : unsignedPage.search unsignedQuestion.toQuery = .ok ([] ++ pikePage :: []) := rfl
  have raised : unsignedPage.PresentingRaises pikePage .signImage (unsigned "pages/pike-12.png") :=
    .signImage rfl rfl rfl
  have raises : unsignedPage.RaisesAt unsignedQuestion .signImage (unsigned "pages/pike-12.png") :=
    .presenting searched rfl raised
  -- The only handler around signing the image is that of the HTTP client.
  exact (mapped_iff_covered raises).mp (always _ _ _ _ raises trivial)

end TorqueFinder
