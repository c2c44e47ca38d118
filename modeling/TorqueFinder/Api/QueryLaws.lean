import TorqueFinder.Api.Query
import TorqueFinder.Extraction.ReplyLaws
import TorqueFinder.Lib.Table

/-! What each step of the query route hands on: numbered sources, links, and the response. -/

namespace TorqueFinder

open ExceptFlow

variable {services : ApiServices} {body : QueryRequest} {hit : RetrievedChunk}
  {retrieved : List RetrievedChunk} {candidate : ExtractionCandidate}
  {candidates : List ExtractionCandidate}

section Sources

/-- The blocks that show a hit under a number: the image of its page, or the text of its module. -/
def ShowsHit (services : ApiServices) (hit : RetrievedChunk) (number : Int)
    (blocks : List UserBlock) : Prop :=
  match hit.sourceType with
  -- The number stands in the text behind the image.
  | .pdf => ∃ key png, hit.pngR2Key = some key ∧ fetchPng services key = .ok png ∧
      blocks = [.image "image/png" (Base64.encode png),
        .text ("Above is source " ++ toString number ++ ": " ++ pdfLabel hit ++ ".")]
  | .html => ∃ text, moduleText services hit = .ok text ∧
      blocks = [.text ("Source " ++ toString number ++ ": " ++ htmlLabel text hit ++
        "\n---\n" ++ text ++ "\n---")]

/-- A candidate carries its number and shows its hit under it. -/
theorem candidateOf_spec {index : Nat} (built : candidateOf services hit index = .ok candidate) :
    candidate.index = index ∧
      ∃ blocks, candidateBlocks candidate = .ok blocks ∧ ShowsHit services hit index blocks := by
  -- A page needs its image, a section its module text, and each is what the blocks show.
  unfold candidateOf at built
  cases kind : hit.sourceType with
  | pdf =>
    rw [kind] at built
    cases stored : hit.pngR2Key with
    | none => simp [stored] at built
    | some key =>
      rw [stored] at built
      obtain ⟨png, fetched, same⟩ := bind_eq_ok.mp built
      obtain rfl := pure_eq_ok.mp same
      refine ⟨rfl, _, rfl, ?_⟩
      unfold ShowsHit
      rw [kind]
      exact ⟨key, png, stored, fetched, rfl⟩
  | html =>
    rw [kind] at built
    obtain ⟨text, fetched, same⟩ := bind_eq_ok.mp built
    obtain rfl := pure_eq_ok.mp same
    refine ⟨rfl, _, rfl, ?_⟩
    unfold ShowsHit
    rw [kind]
    exact ⟨text, fetched, rfl⟩

variable (built : buildCandidates services retrieved = .ok candidates)

include built

/-- The candidate at each place presents the hit at that place, numbered from one. -/
theorem hit_of_candidate {place : Nat} (listed : candidates[place]? = some candidate) :
    ∃ hit, retrieved[place]? = some hit ∧
      candidateOf services hit (1 + place) = .ok candidate := by
  -- The candidates come from the hits paired with the numbers from one on.
  obtain ⟨⟨hit, index⟩, found, presented⟩ := input_of_mapM_eq_ok built listed
  rw [List.getElem?_zipIdx] at found
  obtain ⟨hit, located, same⟩ := Option.map_eq_some_iff.mp found
  obtain ⟨rfl, rfl⟩ := Prod.mk.injEq .. ▸ same
  exact ⟨hit, located, presented⟩

/-- There are as many candidates as hits. -/
theorem length_of_candidates : candidates.length = retrieved.length := by
  -- Each hit, paired with its number, gives one candidate.
  have paired := (mapM_eq_ok.mp built).length_eq
  simpa using paired.symm

/-- The candidates are numbered from one in order. -/
theorem indices_of_candidates :
    candidates.map ExtractionCandidate.index =
      (List.range retrieved.length).map fun place => ((1 + place : Nat) : Int) := by
  -- The candidate at a place carries the number of that place.
  refine List.ext_getElem (by simp [length_of_candidates built]) fun place bound _ => ?_
  rw [List.length_map] at bound
  obtain ⟨hit, _, presented⟩ := hit_of_candidate built (List.getElem?_eq_getElem bound)
  simpa using (candidateOf_spec presented).1

/-- No two candidates share a number. -/
theorem indices_nodup : (candidates.map ExtractionCandidate.index).Nodup := by
  -- The numbers are places counted from one.
  rw [indices_of_candidates built]
  refine List.nodup_range.map fun first second same => ?_
  omega

/-- A request for the candidates of a search can always be built. -/
theorem request_of_candidates (question : String) :
    ∃ request, buildUserBlocks question candidates = .ok request := by
  -- Every candidate was built with what its blocks need.
  refine buildUserBlocks_of_candidateBlocks fun candidate member => ?_
  obtain ⟨place, listed⟩ := List.mem_iff_getElem?.mp member
  obtain ⟨hit, _, presented⟩ := hit_of_candidate built listed
  obtain ⟨_, blocks, shown, _⟩ := candidateOf_spec presented
  exact ⟨blocks, shown⟩

/-- The candidate a number finds is the only one with it, and shows the hit at its place. -/
theorem candidate_of_number {number : Int}
    (found : candidates.find? (fun candidate => candidate.index = number) = some candidate) :
    candidate.index = number ∧
      candidates.filter (fun candidate => candidate.index = number) = [candidate] ∧
      1 ≤ number ∧ number ≤ retrieved.length ∧
      ∃ hit, retrieved[(number - 1).toNat]? = some hit ∧
        ∃ blocks, candidateBlocks candidate = .ok blocks ∧
          ShowsHit services hit number blocks := by
  -- The number of a candidate is its place plus one, which is where its hit stands.
  have member := List.mem_of_find?_eq_some found
  obtain rfl : candidate.index = number := by simpa using List.find?_some found
  refine ⟨rfl, Table.filter_key (indices_nodup built) member, ?_⟩
  obtain ⟨place, listed⟩ := List.mem_iff_getElem?.mp member
  obtain ⟨hit, located, presented⟩ := hit_of_candidate built listed
  obtain ⟨index, blocks, shown, shows⟩ := candidateOf_spec presented
  have bound : place < retrieved.length := (List.getElem?_eq_some_iff.mp located).1
  have place_eq : (candidate.index - 1).toNat = place := by omega
  rw [place_eq, index]
  exact ⟨by omega, by omega, hit, located, blocks, shown, shows⟩

end Sources

section Links

/-- The links of a hit: its own address, or its document at its page with its image. -/
def LinksOf (services : ApiServices) (hit : RetrievedChunk) (sourceUrl : String)
    (screenshotUrl : Option String) : Prop :=
  match hit.sourceType with
  -- A section links to itself and has no image.
  | .html => sourceUrl = hit.sourceUrl ∧ screenshotUrl = none
  -- A page links into its document and to its own image.
  | .pdf => ∃ key document page, hit.pngR2Key = some key ∧
      resolveUrl services hit.documentSourceUrl = .ok document ∧
      resolveUrl services key = .ok page ∧
      sourceUrl = document ++ "#page=" ++ toString hit.ordinal ∧ screenshotUrl = some page

/-- The image of an empty key cannot be fetched. -/
theorem fetchPng_ne_empty {key : String} {png : List UInt8}
    (fetched : fetchPng services key = .ok png) : key ≠ "" := by
  -- Signing the empty key is refused before anything is fetched.
  rintro rfl
  obtain ⟨url, signed, _⟩ := bind_eq_ok.mp fetched
  obtain ⟨error, refused⟩ := services.r2.presign_empty 300
  simp [uncaughtBy, refused] at signed

/-- A hit that was shown is linked as such. -/
theorem linksOf_of_sourceLinks {links : String × Option String} {number : Int}
    {blocks : List UserBlock} (shows : ShowsHit services hit number blocks)
    (linked : sourceLinks services hit = .ok links) : LinksOf services hit links.1 links.2 := by
  -- Both kinds of hit are linked the way they were shown.
  unfold sourceLinks at linked
  unfold ShowsHit at shows
  unfold LinksOf
  cases kind : hit.sourceType with
  | html =>
    rw [kind] at linked
    cases linked
    exact ⟨rfl, rfl⟩
  | pdf =>
    rw [kind] at linked shows
    obtain ⟨key, png, stored, fetched, _⟩ := shows
    obtain ⟨document, resolved, linked⟩ := bind_eq_ok.mp linked
    obtain ⟨screenshot, imaged, linked⟩ := bind_eq_ok.mp linked
    obtain rfl := pure_eq_ok.mp linked
    -- The key is not empty, because its image could be fetched.
    simp only [stored, if_neg (fetchPng_ne_empty fetched)] at imaged
    obtain ⟨page, image, rfl⟩ := map_eq_ok.mp imaged
    exact ⟨key, document, page, stored, resolved, image, rfl, rfl⟩

/-- The entry at each place carries the links of the hit at that place. -/
theorem sourceLinks_of_entry {entries : List Candidate} {place : Nat} {entry : Candidate}
    (linked : responseCandidates services retrieved candidates = .ok entries)
    (located : retrieved[place]? = some hit) (listed : entries[place]? = some entry) :
    sourceLinks services hit = .ok (entry.sourceUrl, entry.screenshotUrl) := by
  -- The entries come from the hits zipped with their candidates, so the places agree.
  obtain ⟨⟨owner, candidate⟩, paired, step⟩ := input_of_mapM_eq_ok linked listed
  obtain ⟨alsoLocated, _⟩ := List.getElem?_zip_eq_some.mp paired
  obtain rfl : hit = owner := Option.some.inj (located.symm.trans alsoLocated)
  obtain ⟨links, resolved, same⟩ := bind_eq_ok.mp step
  obtain rfl := pure_eq_ok.mp same
  exact resolved

/-- There is an entry for every hit that has a candidate. -/
theorem length_of_entries {entries : List Candidate}
    (linked : responseCandidates services retrieved candidates = .ok entries) :
    entries.length = min retrieved.length candidates.length := by
  -- Zipping stops at the shorter list.
  have paired := (mapM_eq_ok.mp linked).length_eq
  simpa using paired.symm

end Links

section Responses

/-- The response of the abstaining kind: no source, no link, no value, and a low confidence. -/
structure AnswerResponse.Abstains (response : AnswerResponse) : Prop where
  abstained : response.abstained = true
  no_source : response.sourceType = none
  no_link : response.sourceUrl = none
  no_screenshot : response.screenshotUrl = none
  no_toolSize : response.toolSize = none
  no_torque : response.torque = none
  low_confidence : response.confidence.val ≤ 3 / 10

/-- The response to the abstention is of the abstaining kind. -/
theorem abstainedResponse_abstains (entries : List Candidate) :
    (abstainedResponse abstain entries).Abstains where
  -- Only the confidence is a computation: it is at the ceiling for abstentions.
  abstained := rfl
  no_source := rfl
  no_link := rfl
  no_screenshot := rfl
  no_toolSize := rfl
  no_torque := rfl
  low_confidence := by norm_num [abstainedResponse, abstain, abstainConfidenceCeiling]

/-- The abstention is always responded to. -/
theorem respond_abstain (entries : List Candidate) :
    respond services retrieved entries abstain = .ok (abstainedResponse abstain entries) := rfl

/-- An answer that cites a number is responded to with the hit and the links at its place. -/
theorem response_of_citation {entries : List Candidate} {answer : Answer} {number : Int}
    {entry : Candidate} (cites : answer.CitesOnly number)
    (located : retrieved[(number - 1).toNat]? = some hit)
    (listed : entries[(number - 1).toNat]? = some entry)
    (imaged : hit.sourceType = .pdf → hit.pngR2Key ≠ none) :
    respond services retrieved entries answer =
      .ok (citedResponse answer hit (entry.sourceUrl, entry.screenshotUrl) entries) := by
  -- The hit has its image if it is a page, so the entry's links are promoted as they are.
  obtain ⟨answered, index⟩ := cites
  obtain ⟨⟨_, positive⟩, cited, rfl⟩ := Option.map_eq_some_iff.mp index
  have pinned : ¬ (hit.sourceType = .pdf ∧ hit.pngR2Key = none) := fun both =>
    imaged both.1 both.2
  simp only [respond, answered, cited, located, listed, if_neg pinned]
  rfl

/-- A response is made of hits, their candidates, an answer about them, and their links. -/
theorem steps_of_query {response : AnswerResponse} (served : query services body = .ok response) :
    ∃ retrieved candidates answer entries,
      services.search body.toQuery = .ok retrieved ∧
      buildCandidates services retrieved = .ok candidates ∧
      services.extractor.extract body.question candidates = .ok answer ∧
      responseCandidates services retrieved candidates = .ok entries ∧
      respond services retrieved entries answer = .ok response := by
  -- Every other exit of the route is an error.
  obtain ⟨retrieved, searched, served⟩ := bind_eq_ok.mp served
  split at served
  · cases served
  obtain ⟨candidates, built, served⟩ := bind_eq_ok.mp served
  obtain ⟨answer, extracted, served⟩ := bind_eq_ok.mp served
  obtain ⟨entries, linked, responded⟩ := bind_eq_ok.mp served
  exact ⟨retrieved, candidates, answer, entries, mapError_eq_ok.mp searched, built,
    mapError_eq_ok.mp extracted, linked, responded⟩

/-- Once hits are found and presented, the route extracts, links, and responds. -/
theorem query_of_candidates (searched : services.search body.toQuery = .ok retrieved)
    (some : retrieved ≠ []) (built : buildCandidates services retrieved = .ok candidates) :
    query services body = (do
      let answer ← (services.extractor.extract body.question candidates).mapError extractionFailure
      let entries ← responseCandidates services retrieved candidates
      respond services retrieved entries answer) := by
  -- The first two steps are known to succeed.
  simp only [query, searched, Except.mapError, bind, Except.bind, if_neg some, built]

end Responses

end TorqueFinder
