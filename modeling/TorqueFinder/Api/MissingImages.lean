import TorqueFinder.Api.CitationIntegrity

/-! What becomes of a request when a retrieved page has no image. -/

namespace TorqueFinder

open ExceptFlow

/-- A page without a stored image. -/
def LacksImage (hit : RetrievedChunk) : Prop := hit.sourceType = .pdf ∧ hit.pngR2Key = none

/-- Whether a hit is a page without a stored image can be read off the hit. -/
instance (hit : RetrievedChunk) : Decidable (LacksImage hit) :=
  inferInstanceAs (Decidable (_ ∧ _))

/-- The error that names a page without a stored image. -/
def missingImage (hit : RetrievedChunk) : RouteFailure :=
  .http 500 ("PDF chunk " ++ toString hit.chunkId ++ " is missing its page PNG key.") []

/-- A hit can be shown: the image of its page can be fetched, or the text of its module read. -/
def Presentable (services : ApiServices) (hit : RetrievedChunk) : Prop :=
  match hit.sourceType with
  -- The image is fetched through a link that is signed for it.
  | .pdf => ∃ key url png, hit.pngR2Key = some key ∧
      services.r2.generatePresignedUrl key 300 = .ok url ∧ services.httpGet url = .ok png
  -- A section without a parent module shows its own text, which needs no database.
  | .html => ∀ anchor, hit.parentAnchor = some anchor →
      ∃ text, services.fetchModuleText hit.documentId anchor = .ok text

/-- What a request owes to the retrieved pages that have no image, and to the other hits. -/
structure DegradesGracefully (services : ApiServices) (body : QueryRequest)
    (retrieved : List RetrievedChunk) : Prop where
  notRefused : ∀ hit ∈ retrieved, LacksImage hit →
    query services body ≠ .error (missingImage hit)
  -- The other hits reach the extractor under their own numbers.
  othersSent : (∀ hit ∈ retrieved, ¬ LacksImage hit → Presentable services hit) →
    ∃ candidates, buildCandidates services retrieved = .ok candidates ∧
      ∀ place hit, retrieved[place]? = some hit → ¬ LacksImage hit →
        ∃ candidate ∈ candidates, candidateOf services hit (1 + place) = .ok candidate
  -- A cited page without an image is linked as a whole document, without a screenshot.
  citesDocument : ∀ candidates answer index hit response,
    buildCandidates services retrieved = .ok candidates →
    services.extractor.extract body.question candidates = .ok answer →
    answer.abstained = false → answer.sourceIndex = some index →
    retrieved[(index.val - 1).toNat]? = some hit → LacksImage hit →
    query services body = .ok response →
    ∃ url, resolveUrl services hit.documentSourceUrl = .ok url ∧
      response.sourceUrl = some url ∧ response.screenshotUrl = none

section Steps

variable {services : ApiServices} {hit : RetrievedChunk} {index : Nat}

/-- A failure the route does not handle, or a value: an unhandled step succeeds with its call. -/
theorem uncaughtBy_eq_ok {ε α : Type*} {call : Except ε α} {value : α} :
    uncaughtBy call = .ok value ↔ call = .ok value := by
  cases call <;> simp [uncaughtBy]

/-- A page without an image is refused wherever it stands. -/
theorem candidateOf_of_lacksImage (lacks : LacksImage hit) :
    candidateOf services hit index = .error (missingImage hit) := by
  -- The key is looked at before anything is fetched.
  obtain ⟨kind, absent⟩ := lacks
  simp only [candidateOf, kind, absent, missingImage]

/-- The image of a page is fetched when its key can be signed and the signed URL be read. -/
theorem fetchPng_eq_ok {key : String} {png : List UInt8} :
    fetchPng services key = .ok png ↔
      ∃ url, services.r2.generatePresignedUrl key 300 = .ok url ∧
        services.httpGet url = .ok png := by
  -- Every failure of the download stays a failure.
  simp only [fetchPng, bind_eq_ok, uncaughtBy_eq_ok]
  refine exists_congr fun url => and_congr_right fun _ => ?_
  cases services.httpGet url with
  | ok bytes => simp
  | error failure => cases failure <;> simp

/-- The text of a section is read unless its module cannot be. -/
theorem moduleText_ok_iff :
    (∃ text, moduleText services hit = .ok text) ↔
      ∀ anchor, hit.parentAnchor = some anchor →
        ∃ text, services.fetchModuleText hit.documentId anchor = .ok text := by
  -- A section without a module shows its own text.
  cases owner : hit.parentAnchor with
  | none => simp [moduleText, owner]
  | some anchor =>
    simp only [moduleText, owner, bind_eq_ok, uncaughtBy_eq_ok, pure_eq_ok, Option.some.injEq,
      forall_eq']
    constructor
    · intro read
      obtain ⟨_, text, found, _⟩ := read
      exact ⟨text, found⟩
    · intro read
      obtain ⟨text, found⟩ := read
      exact ⟨_, text, found, rfl⟩

/-- A hit has a candidate under any number exactly when it can be shown. -/
theorem candidateOf_ok_iff :
    (∃ candidate, candidateOf services hit index = .ok candidate) ↔ Presentable services hit := by
  unfold candidateOf Presentable
  cases hit.sourceType with
  | pdf =>
    -- A page needs its key and the image behind it.
    cases hit.pngR2Key with
    | none => simp
    | some key =>
      simp only [bind_eq_ok, pure_eq_ok, fetchPng_eq_ok, Option.some.injEq]
      constructor
      · intro built
        obtain ⟨_, png, ⟨url, signed, fetched⟩, _⟩ := built
        exact ⟨key, url, png, rfl, signed, fetched⟩
      · intro shown
        obtain ⟨_, url, png, rfl, signed, fetched⟩ := shown
        exact ⟨_, png, ⟨url, signed, fetched⟩, rfl⟩
  | html =>
    -- A section needs the text of its module.
    simp only [bind_eq_ok, pure_eq_ok, ← moduleText_ok_iff]
    constructor
    · intro built
      obtain ⟨_, text, read, _⟩ := built
      exact ⟨text, read⟩
    · intro shown
      obtain ⟨text, read⟩ := shown
      exact ⟨_, text, read, rfl⟩

/-- A page without an image cannot be shown. -/
theorem not_presentable_of_lacksImage (lacks : LacksImage hit) : ¬ Presentable services hit := by
  -- What can be presented becomes a candidate, and such a hit becomes an error.
  intro shown
  have built : ∃ candidate, candidateOf services hit 1 = .ok candidate :=
    candidateOf_ok_iff.mpr shown
  simp [candidateOf_of_lacksImage lacks] at built

/-- Only a page without an image is refused as one. -/
theorem lacksImage_of_refused {other : RetrievedChunk}
    (refused : candidateOf services hit index = .error (missingImage other)) : LacksImage hit := by
  unfold candidateOf at refused
  cases kind : hit.sourceType with
  | pdf =>
    rw [kind] at refused
    cases stored : hit.pngR2Key with
    | none => exact ⟨kind, stored⟩
    | some key =>
      -- A failed fetch is answered with another status, or not at all.
      rw [stored] at refused
      rcases bind_eq_error.mp refused with failed | ⟨png, _, built⟩
      · rcases bind_eq_error.mp failed with unsigned | ⟨url, _, fetched⟩
        · cases signed : services.r2.generatePresignedUrl key 300 <;>
            simp [uncaughtBy, signed, missingImage] at unsigned
        · cases got : services.httpGet url with
          | ok png => simp [got] at fetched
          | error failure => cases failure <;> simp [got, missingImage] at fetched
      · simp [pure, Except.pure] at built
  -- A section is presented by its text, which has other failures.
  | html =>
    rw [kind] at refused
    rcases bind_eq_error.mp refused with failed | ⟨text, _, built⟩
    · unfold moduleText at failed
      cases owner : hit.parentAnchor with
      | none => simp [owner] at failed
      | some anchor =>
        rw [owner] at failed
        rcases bind_eq_error.mp failed with unread | ⟨text, _, read⟩
        · cases found : services.fetchModuleText hit.documentId anchor <;>
            simp [uncaughtBy, found, missingImage] at unread
        · simp [pure, Except.pure] at read
    · simp [pure, Except.pure] at built

end Steps

section Lists

variable {services : ApiServices} {body : QueryRequest} {retrieved : List RetrievedChunk}
  {hit : RetrievedChunk}

/-- Up to a page without an image there is a first one, with none in front of it. -/
theorem first_lacksImage (front back : List RetrievedChunk) (lacks : LacksImage hit) :
    ∃ ahead first behind, front ++ hit :: back = ahead ++ first :: behind ∧ ahead ⊆ front ∧
      LacksImage first ∧ ∀ earlier ∈ ahead, ¬ LacksImage earlier := by
  -- Either the page is itself the first one, or the first one stands in front of it.
  cases found : front.find? LacksImage with
  | none =>
    refine ⟨front, hit, back, rfl, List.Subset.refl front, lacks, ?_⟩
    simpa using found
  | some first =>
    obtain ⟨bare, ahead, between, rfl, whole⟩ := List.find?_eq_some_iff_append.mp found
    refine ⟨ahead, first, between ++ hit :: back, by simp, by simp, by simpa using bare, ?_⟩
    simpa using whole

/-- The candidates can be built exactly when every hit can be shown. -/
theorem buildCandidates_ok_iff :
    (∃ candidates, buildCandidates services retrieved = .ok candidates) ↔
      ∀ hit ∈ retrieved, Presentable services hit := by
  rw [buildCandidates, mapM_ok_iff]
  constructor
  · intro built hit member
    -- Each hit stands at some place, and is numbered by it.
    obtain ⟨place, located⟩ := List.mem_iff_getElem?.mp member
    have numbered : (hit, 1 + place) ∈ retrieved.zipIdx 1 := by
      rw [List.mk_mem_zipIdx_iff_le_and_getElem?_sub]
      simpa using located
    exact candidateOf_ok_iff.mp (built _ numbered)
  · intro shown numbered member
    exact candidateOf_ok_iff.mpr (shown _ (List.fst_mem_of_mem_zipIdx member))

/-- The first hit that cannot be shown decides how building the candidates fails. -/
theorem buildCandidates_of_first {front back : List RetrievedChunk}
    (before : ∀ earlier ∈ front, Presentable services earlier) (lacks : LacksImage hit) :
    buildCandidates services (front ++ hit :: back) = .error (missingImage hit) := by
  -- Everything in front of the page is shown, and the page itself is refused.
  rw [buildCandidates, List.zipIdx_append, List.zipIdx_cons]
  refine mapM_error_of_first ?_ (candidateOf_of_lacksImage lacks)
  intro numbered member
  exact candidateOf_ok_iff.mpr (before _ (List.fst_mem_of_mem_zipIdx member))

/-- When building the candidates ends at a page without an image, everything before was shown. -/
theorem first_of_missingImage
    (failed : buildCandidates services retrieved = .error (missingImage hit)) :
    ∃ front lacking back, retrieved = front ++ lacking :: back ∧ LacksImage lacking ∧
      ∀ earlier ∈ front, Presentable services earlier := by
  obtain ⟨front, ⟨lacking, number⟩, back, split, before, refused⟩ := first_of_mapM_error failed
  -- Dropping the numbers splits the hits at the same place.
  have hits := congrArg (List.map Prod.fst) split
  rw [List.zipIdx_map_fst, List.map_append, List.map_cons] at hits
  refine ⟨_, lacking, _, hits, lacksImage_of_refused refused, ?_⟩
  intro earlier member
  obtain ⟨⟨_, index⟩, inside, rfl⟩ := List.mem_map.mp member
  exact candidateOf_ok_iff.mp (before _ inside)

variable (searched : services.search body.toQuery = .ok retrieved)

include searched

/-- A route that cannot build the candidates ends with that failure. -/
theorem query_of_unbuilt {failure : RouteFailure} (some : retrieved ≠ [])
    (failed : buildCandidates services retrieved = .error failure) :
    query services body = .error failure := by
  -- Nothing is sent to the model before all candidates are built.
  simp only [query, searched, Except.mapError, ok_bind, if_neg some, failed, error_bind]

/-- Pages without images are passed over exactly when the request fails in front of them anyway. -/
theorem degradesGracefully_iff :
    DegradesGracefully services body retrieved ↔
      ∀ front hit back, retrieved = front ++ hit :: back → LacksImage hit →
        ∃ earlier ∈ front, ¬ LacksImage earlier ∧ ¬ Presentable services earlier := by
  constructor
  · intro degrades front hit back split lacks
    by_contra shown
    push Not at shown
    -- The first page without an image is then met with everything in front of it shown.
    obtain ⟨ahead, first, behind, cut, within, bare, whole⟩ :=
      first_lacksImage front back lacks
    have before : ∀ earlier ∈ ahead, Presentable services earlier := fun earlier inside =>
      shown earlier (within inside) (whole earlier inside)
    have refused : buildCandidates services (ahead ++ first :: behind) =
        .error (missingImage first) := buildCandidates_of_first before bare
    rw [← cut, ← split] at refused
    have member : first ∈ retrieved := by simp [split, cut]
    exact degrades.notRefused first member bare
      (query_of_unbuilt searched (List.ne_nil_of_mem member) refused)
  · intro early
    -- Whenever all other hits can be shown, there is no page without an image at all.
    have none : (∀ hit ∈ retrieved, ¬ LacksImage hit → Presentable services hit) →
        ∀ hit ∈ retrieved, Presentable services hit := by
      intro shown hit member
      by_cases lacks : LacksImage hit
      · obtain ⟨front, back, split⟩ := List.append_of_mem member
        obtain ⟨earlier, inside, whole, hidden⟩ := early front hit back split lacks
        exact absurd (shown earlier (by simp [split, inside]) whole) hidden
      · exact shown hit member lacks
    refine ⟨?_, ?_, ?_⟩
    · -- The refusal names the first page without an image.
      intro hit member lacks refused
      cases built : buildCandidates services retrieved with
      | ok candidates =>
        have shown := buildCandidates_ok_iff.mp ⟨candidates, built⟩ hit member
        exact not_presentable_of_lacksImage lacks shown
      | error failure =>
        have ended := query_of_unbuilt searched (List.ne_nil_of_mem member) built
        obtain rfl : failure = missingImage hit := Except.error.inj (ended.symm.trans refused)
        obtain ⟨front, lacking, back, split, bare, before⟩ := first_of_missingImage built
        obtain ⟨earlier, inside, _, hidden⟩ := early front lacking back split bare
        exact hidden (before earlier inside)
    · intro shown
      obtain ⟨candidates, built⟩ := buildCandidates_ok_iff.mpr (none shown)
      refine ⟨candidates, built, fun place hit located _ => ?_⟩
      -- The candidate at a place presents the hit at the same place.
      have numbered : (retrieved.zipIdx 1)[place]? = some (hit, 1 + place) := by
        rw [List.getElem?_zipIdx, located]
        rfl
      obtain ⟨candidate, listed, presented⟩ := output_of_mapM_eq_ok built numbered
      exact ⟨candidate, List.mem_of_getElem? listed, presented⟩
    · intro candidates answer index hit response built _ _ _ located lacks
      have shown := buildCandidates_ok_iff.mp ⟨candidates, built⟩ hit (List.mem_of_getElem? located)
      exact absurd shown (not_presentable_of_lacksImage lacks)

end Lists

/-- A section of a manual, whose module can be read. -/
def pikeSection : RetrievedChunk where
  chunkId := 2
  documentId := 2
  sourceType := .html
  documentTitle := "Pike Manual"
  documentSourceUrl := "https://docs.sram.com/pike"
  ordinal := 3
  text := "Torque 7.3 Nm"
  pngR2Key := none
  anchor := some "a3"
  parentAnchor := some "a1"
  sourceUrl := "https://docs.sram.com/pike#a3"
  score := 1 / 61
  source := .keyword
  productFamily := some "pike"
  brand := none

/-- A page of a manual that was stored without an image. -/
def barePage : RetrievedChunk where
  chunkId := 7
  documentId := 1
  sourceType := .pdf
  documentTitle := "pike.pdf"
  documentSourceUrl := "pdfs/pike.pdf"
  ordinal := 12
  text := "Torque 7.3 Nm"
  pngR2Key := none
  anchor := none
  parentAnchor := none
  sourceUrl := "pdfs/pike.pdf"
  score := 1 / 62
  source := .keyword
  productFamily := some "pike"
  brand := none

/-- Services that find the section and, behind it, the page without an image. -/
def sectionAndBarePage : ApiServices :=
  { pageAndSection with search := fun _ => .ok [pikeSection, barePage] }

/-- The section can be shown. -/
theorem pikeSection_presentable : Presentable sectionAndBarePage pikeSection :=
  fun _ _ => ⟨_, rfl⟩

/-- The request of the section and the page is refused, since the section can be shown. -/
theorem degradesGracefully_iff_bare_page :
    DegradesGracefully sectionAndBarePage topCapQuestion [pikeSection, barePage] ↔
      ∀ front hit back, [pikeSection, barePage] = front ++ hit :: back → LacksImage hit →
        ∃ earlier ∈ front, ¬ LacksImage earlier ∧ ¬ Presentable sectionAndBarePage earlier :=
  degradesGracefully_iff rfl

/-- One page without an image fails a request whose other hit could be shown. -/
theorem not_degradesGracefully :
    ¬ ∀ services body retrieved, services.search body.toQuery = .ok retrieved →
      DegradesGracefully services body retrieved := by
  intro always
  have degrades := always sectionAndBarePage topCapQuestion [pikeSection, barePage] rfl
  have bare : LacksImage barePage := ⟨rfl, rfl⟩
  -- The section in front is shown, so the page is met and refused.
  have refused : buildCandidates sectionAndBarePage ([pikeSection] ++ barePage :: []) =
      .error (missingImage barePage) :=
    buildCandidates_of_first (by simp [pikeSection_presentable]) bare
  exact degrades.notRefused barePage (by simp) bare (query_of_unbuilt rfl (by simp) refused)

end TorqueFinder
