import TorqueFinder.Api.QueryLaws

/-! Every served answer cites the source shown under the cited number, or abstains. -/

namespace TorqueFinder

open PyJson ExceptFlow

/-- What a served request found, showed to the model, and was replied. -/
structure Exchange (services : ApiServices) (body : QueryRequest) where
  retrieved : List RetrievedChunk
  candidates : List ExtractionCandidate
  request : List UserBlock
  reply : Message
  searched : services.search body.toQuery = .ok retrieved
  built : buildCandidates services retrieved = .ok candidates
  requested : buildUserBlocks body.question candidates = .ok request
  replied : services.extractor.create request = .ok reply

/-- The response of the citing kind: the hit shown under the cited number, with its own links. -/
structure Exchange.Cites {services : ApiServices} {body : QueryRequest}
    (exchange : Exchange services body) (response : AnswerResponse) (number : Int)
    (hit : RetrievedChunk) : Prop where
  cited : CitesNumber services.extractor.interpreter exchange.reply number
  one_candidate : ∃ candidate,
    exchange.candidates.filter (fun candidate => candidate.index = number) = [candidate]
  in_range : 1 ≤ number ∧ number ≤ exchange.retrieved.length
  located : exchange.retrieved[(number - 1).toNat]? = some hit
  shown : ∃ blocks, ShowsHit services hit number blocks ∧ blocks <:+: exchange.request
  answered : response.abstained = false
  source : response.sourceType = some hit.sourceType.value
  linked : ∃ sourceUrl, response.sourceUrl = some sourceUrl ∧
    LinksOf services hit sourceUrl response.screenshotUrl

/-- The same services with a model that always gives one reply. -/
def ApiServices.replying (services : ApiServices) (reply : Message) : ApiServices :=
  { services with extractor := { services.extractor with create := fun _ => .ok reply } }

variable {services : ApiServices} {body : QueryRequest} {response : AnswerResponse}

/-- A shown PDF hit has an image. -/
theorem image_of_shown {hit : RetrievedChunk} {number : Int} {blocks : List UserBlock}
    (shows : ShowsHit services hit number blocks) (kind : hit.sourceType = .pdf) :
    hit.pngR2Key ≠ none := by
  -- A page is shown by its image.
  unfold ShowsHit at shows
  rw [kind] at shows
  obtain ⟨key, _, stored, _⟩ := shows
  simp [stored]

/-- An answer about a candidate is served with the hit shown under its number. -/
theorem Exchange.cites_of_answer (exchange : Exchange services body) {answer : Answer}
    {entries : List Candidate} {number : Int} {candidate : ExtractionCandidate}
    (cited : CitesNumber services.extractor.interpreter exchange.reply number)
    (found : exchange.candidates.find? (fun candidate => candidate.index = number) =
      some candidate)
    (only : answer.CitesOnly candidate.index)
    (linked : responseCandidates services exchange.retrieved exchange.candidates = .ok entries)
    (responded : respond services exchange.retrieved entries answer = .ok response) :
    ∃ hit, exchange.Cites response number hit := by
  -- The candidate found by number is the one whose blocks show the hit.
  have member := List.mem_of_find?_eq_some found
  obtain ⟨index, alone, positive, bounded, hit, located, blocks, presented, shows⟩ :=
    candidate_of_number exchange.built found
  obtain ⟨sameBlocks, alsoPresented, inside⟩ := candidateBlocks_infix exchange.requested member
  obtain rfl : blocks = sameBlocks := Except.ok.inj (presented.symm.trans alsoPresented)
  -- The entry at the place of the hit carries the links of the hit.
  have bound : (number - 1).toNat < entries.length := by
    rw [length_of_entries linked, length_of_candidates exchange.built, min_self]
    exact (List.getElem?_eq_some_iff.mp located).1
  have listed := List.getElem?_eq_getElem bound
  have links := linksOf_of_sourceLinks shows (sourceLinks_of_entry linked located listed)
  rw [index] at only
  rw [response_of_citation only located listed (image_of_shown shows)] at responded
  cases responded
  exact ⟨hit, cited, ⟨candidate, alone⟩, ⟨positive, bounded⟩, located, ⟨blocks, shows, inside⟩,
    rfl, rfl, _, rfl, links⟩

/-- Behind the gate every reply is served as the abstention, with the entries of the hits. -/
theorem query_of_gate {retrieved : List RetrievedChunk} {candidates : List ExtractionCandidate}
    (real : services.extractor.stub = false)
    (searched : services.search body.toQuery = .ok retrieved) (some : retrieved ≠ [])
    (built : buildCandidates services retrieved = .ok candidates)
    (gate : isOutOfCorpus services.extractor.order body.question candidates = true)
    (reply : Message) :
    query (services.replying reply) body =
      (responseCandidates services retrieved candidates).map (abstainedResponse abstain) := by
  -- The request can be built, the reply is ignored, and only the links can still fail.
  have presented : candidates ≠ [] := by
    rw [← List.length_pos_iff, length_of_candidates built]
    exact List.length_pos_iff.mpr some
  obtain ⟨request, requested⟩ := request_of_candidates built body.question
  have stillReal : (services.replying reply).extractor.stub = false := real
  have extracted : (services.replying reply).extractor.extract body.question candidates =
      .ok abstain :=
    (extract_of_reply stillReal presented requested rfl).trans (parseResponse_of_gate gate)
  have found : (services.replying reply).search body.toQuery = .ok retrieved := searched
  rw [query_of_candidates found some built, extracted]
  rfl

/-- Every served answer cites the source shown under the cited number, or abstains. -/
theorem citation_integrity (services : ApiServices) (body : QueryRequest)
    (real : services.extractor.stub = false) :
    (∀ response, query services body = .ok response → ∃ exchange : Exchange services body,
      response.Abstains ∨
        isOutOfCorpus services.extractor.order body.question exchange.candidates = false ∧
          ∃ number hit, exchange.Cites response number hit) ∧
    ∀ retrieved candidates, services.search body.toQuery = .ok retrieved → retrieved ≠ [] →
      buildCandidates services retrieved = .ok candidates →
      isOutOfCorpus services.extractor.order body.question candidates = true →
        (∀ first second,
          query (services.replying first) body = query (services.replying second) body) ∧
        (∀ reply response, query (services.replying reply) body = .ok response →
          response.Abstains) ∧
        ∀ entries, responseCandidates services retrieved candidates = .ok entries →
          ∀ reply, ∃ response, query (services.replying reply) body = .ok response := by
  -- The reply decides between the two kinds, unless the gate has decided before.
  refine ⟨fun response served => ?_, fun retrieved candidates searched some built gate => ?_⟩
  · obtain ⟨retrieved, candidates, answer, entries, searched, built, extracted, linked,
      responded⟩ := steps_of_query served
    obtain ⟨request, reply, requested, replied, read⟩ := reply_of_extract real extracted
    let exchange : Exchange services body :=
      ⟨retrieved, candidates, request, reply, searched, built, requested, replied⟩
    refine ⟨exchange, ?_⟩
    -- The answer is the abstention, or it cites a source of the request.
    rcases answer_of_reply read with rfl | ⟨passed, number, candidate, cited, found, only⟩
    · rw [respond_abstain] at responded
      cases responded
      exact Or.inl (abstainedResponse_abstains entries)
    · obtain ⟨hit, cites⟩ := exchange.cites_of_answer cited found only linked responded
      exact Or.inr ⟨passed, number, hit, cites⟩
  · -- Behind the gate the reply is not looked at.
    have outcome := query_of_gate real searched some built gate
    refine ⟨fun first second => (outcome first).trans (outcome second).symm,
      fun reply response served => ?_, fun entries linked reply => ?_⟩
    · obtain ⟨entries, _, rfl⟩ := map_eq_ok.mp ((outcome reply).symm.trans served)
      exact abstainedResponse_abstains entries
    · exact ⟨_, (outcome reply).trans (by rw [linked]; rfl)⟩

/-- A reply that cites the second source. -/
def secondSourceReply : String :=
  "\x7b\"answer\": \"7.3 Nm\", \"torque\": \"7.3 Nm\", \"source_index\": 2, \"confidence\": 0.9\x7d"

/-- Services that find a page and a section of one manual, with a model that cites the section. -/
def pageAndSection : ApiServices where
  search _ := .ok
    [{ chunkId := 1, documentId := 1, sourceType := .pdf, documentTitle := "pike.pdf"
       documentSourceUrl := "pdfs/pike.pdf", ordinal := 12, text := "Torque 7.3 Nm"
       pngR2Key := some "pages/pike-12.png", anchor := none, parentAnchor := none
       sourceUrl := "pdfs/pike.pdf", score := 1 / 61, source := .keyword
       productFamily := some "pike", brand := none },
     { chunkId := 2, documentId := 2, sourceType := .html, documentTitle := "Pike Manual"
       documentSourceUrl := "https://docs.sram.com/pike", ordinal := 3, text := "Torque 7.3 Nm"
       pngR2Key := none, anchor := some "a3", parentAnchor := some "a1"
       sourceUrl := "https://docs.sram.com/pike#a3", score := 1 / 62, source := .keyword
       productFamily := some "pike", brand := none }]
  fetchModuleText _ _ := .ok "Top cap\nTorque 7.3 Nm"
  extractor :=
    { order := .textual
      stub := false
      interpreter := tableInterpreter
        [(secondSourceReply, .obj [("answer", .str "7.3 Nm"), ("torque", .str "7.3 Nm"),
          ("source_index", .int 2), ("confidence", .float (.finite (9 / 10)))])]
      create := fun _ =>
        .ok { stopReason := some "end_turn", content := [⟨"text", secondSourceReply⟩] } }
  r2 :=
    { publicBaseUrl := some "https://assets.example"
      generatePresignedUrl := fun key _ =>
        if key = "" then .error ⟨"R2 presigned URL generation failed for key ''"⟩
        else .ok ("https://signed.example/" ++ key)
      presign_empty := fun _ => ⟨_, rfl⟩ }
  -- Every image is the first bytes of a PNG file.
  httpGet _ := .ok [137, 80, 78, 71]

/-- A question about the manual of both sources. -/
def topCapQuestion : QueryRequest where
  question := "pike top cap torque?"

/-- The page and the section are served with the links of the section. -/
theorem citation_integrity_section :
    ∃ response, query pageAndSection topCapQuestion = .ok response ∧
      response.sourceUrl = some "https://docs.sram.com/pike#a3" ∧
        ∃ exchange : Exchange pageAndSection topCapQuestion, ∃ number hit,
          exchange.Cites response number hit := by
  -- The promoted link shows that the response does not abstain.
  have link : (query pageAndSection topCapQuestion).toOption.bind AnswerResponse.sourceUrl =
      some "https://docs.sram.com/pike#a3" := by decide +kernel
  cases served : query pageAndSection topCapQuestion with
  | error failure => simp [served, Except.toOption] at link
  | ok response =>
    rw [served] at link
    obtain ⟨exchange, abstains | ⟨_, cited⟩⟩ :=
      (citation_integrity pageAndSection topCapQuestion rfl).1 response served
    · exact absurd (abstains.no_link.symm.trans link) (by simp)
    · exact ⟨response, rfl, link, exchange, cited⟩

end TorqueFinder
