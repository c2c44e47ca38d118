import Mathlib.Data.Set.Basic
import TorqueFinder.Api.MissingImages
import TorqueFinder.Ingestion.CommandHistory
import TorqueFinder.Retrieval.EmbedderLaws
import TorqueFinder.Retrieval.StoreSession

/-! What a query serves of the database that the commands wrote. -/

namespace TorqueFinder

open ExceptFlow

/-- What the search of the service is configured with. -/
structure RetrievalService where
  pageWindow : Nat := defaultPageWindow
  maxCandidates : Nat := defaultMaxCandidates

/-- The hits of a question. -/
def RetrievalService.search (service : RetrievalService) (order : SetOrder) (session : Session)
    (query : Query) : Except RetrievalError (List RetrievedChunk) :=
  -- The question says how many results it wants, the service how far it expands.
  hybridSearch order session query.text query.topK defaultTopKPerChannel service.pageWindow
    service.maxCandidates

/-- A row of what the database holds after one of some histories. -/
def RowAmong (library : PdfLibrary) (moments : Set (List Command)) (row : ChunkRow) : Prop :=
  ∃ history ∈ moments, row ∈ (databaseAfter library history).store.chunkRows

/-- The session reads rows while commands run, each row at one of some moments. -/
structure Session.ReadsAmong (session : Session) (library : PdfLibrary)
    (moments : Set (List Command)) : Prop where
  chunks : ∀ chunkIds rows, session.loadChunks chunkIds = .ok rows →
    ∀ row ∈ rows, RowAmong library moments row
  neighbors : ∀ documentId low high rows, session.loadDocNeighbors documentId low high = .ok rows →
    ∀ row ∈ rows, RowAmong library moments row

/-- The link of a page of a stored PDF with its image, or of a section of a stored publication. -/
inductive LeadsInto (services : ApiServices) (database : Database) : String → Option String → Prop
  | page {document : IndexedDocument} {values : ChunkValues} {pageNo : Nat} {file image : String}
    (stored : document ∈ database.store.documents) (kind : document.sourceType = .pdf)
    (owned : values ∈ database.store.chunksOf document.id)
    (numbered : values.ordinal = pageNo) (positive : 1 ≤ pageNo)
    (resolved : resolveUrl services (pdfKey document.sourceRef) = .ok file)
    (imaged : resolveUrl services (pngKey document.sourceRef pageNo) = .ok image) :
    LeadsInto services database (file ++ "#page=" ++ toString pageNo) (some image)
  | block {document : IndexedDocument} {values : ChunkValues} {anchor : Option String}
    (stored : document ∈ database.store.documents) (kind : document.sourceType = .html)
    (owned : values ∈ database.store.chunksOf document.id)
    (linked : values.sourceUrl = deepLink document.sourceUrl anchor) :
    LeadsInto services database (deepLink document.sourceUrl anchor) none

/-- A link into the database at one of some moments, which every later moment keeps for a page. -/
def LinkAmong (services : ApiServices) (library : PdfLibrary) (moments : Set (List Command))
    (sourceUrl : String) (screenshotUrl : Option String) : Prop :=
  -- The link leads somewhere at the moment it was made, and an image stays for good.
  ∃ history ∈ moments,
    LeadsInto services (databaseAfter library history) sourceUrl screenshotUrl ∧
      (screenshotUrl ≠ none → ∀ later,
        LeadsInto services (databaseAfter library (history ++ later)) sourceUrl screenshotUrl)

/-- The statuses that the route answers with when every page has its image. -/
def RouteFailure.Foreseen : RouteFailure → Prop
  | .http status _ _ => status ∈ [404, 502, 503]
  -- An exception outside the handlers says nothing about an image key.
  | .uncaught => True

variable {library : PdfLibrary} {moments : Set (List Command)} {session : Session}
  {service : RetrievalService} {order : SetOrder} {question : Query} {services : ApiServices}
  {hits : List RetrievedChunk} {database : Database} {row : ChunkRow} {score : ℚ}

/-- Every hit of a search is hydrated from a row that the session read. -/
theorem row_of_hit (reads : session.ReadsAmong library moments)
    (found : service.search order session question = .ok hits) :
    ∀ hit ∈ hits, ∃ row score, hit = rowToRetrieved row score ∧ RowAmong library moments row := by
  obtain ⟨reading⟩ := Reading.exists_of_hybridSearch found
  obtain ⟨neighborRows, loaded, rfl⟩ := reading.results_of_hybridSearch found
  intro hit member
  obtain ⟨fused, -, hydrated⟩ := List.mem_filterMap.mp member
  obtain ⟨row, chosen, rfl⟩ := Option.map_eq_some_iff.mp hydrated
  refine ⟨row, fused.score, rfl, ?_⟩
  -- The row was loaded for the pool, or else as a neighbour of the anchor.
  unfold hydratedRow at chosen
  split at chosen
  · rename_i pooled own
    obtain rfl := Option.some.inj chosen
    have inside := (rowOf_spec own).1
    by_cases empty : reciprocalRankFusion [reading.keywordHits, reading.vectorHits] = []
    · rw [reading.rows_empty empty] at inside
      cases inside
    · exact reads.chunks _ _ (reading.rows_loaded empty) _ inside
  · have inside := (rowOf_spec chosen).1
    -- Neighbours are only loaded when a leader is expanded.
    unfold Reading.neighborRows at loaded
    split at loaded
    · obtain rfl := Except.ok.inj loaded
      cases inside
    · rename_i leader leaderMeta expanded
      cases read : session.loadDocNeighbors leaderMeta.documentId
        (leaderMeta.ordinal - service.pageWindow) (leaderMeta.ordinal + service.pageWindow) with
      | error failure =>
        rw [read] at loaded
        cases loaded
      | ok rows =>
        rw [read] at loaded
        obtain rfl := Except.ok.inj loaded
        exact reads.neighbors _ _ _ _ read _ inside

/-- A row belongs to a stored document and to one of its chunks. -/
theorem owner_of_row {store : Store} (member : row ∈ store.chunkRows) :
    ∃ document ∈ store.documents, ∃ chunk ∈ store.chunks,
      chunk.values ∈ store.chunksOf document.id ∧ row = ChunkRow.join chunk document := by
  -- A row is only joined for a chunk whose document is there.
  obtain ⟨chunk, inside, joined⟩ := List.mem_filterMap.mp member
  obtain ⟨document, found, rfl⟩ := Option.map_eq_some_iff.mp joined
  have owner : document.id = chunk.documentId := by simpa using List.find?_some found
  refine ⟨document, List.mem_of_find?_eq_some found, chunk, inside, ?_, rfl⟩
  rw [Store.chunksOf, owner]
  exact List.mem_map_of_mem (List.mem_filter.mpr ⟨inside, decide_eq_true rfl⟩)

/-- A row of a well-made database has its image when it is a page. -/
theorem not_lacksImage_of_row (made : database.WellMade library)
    (member : row ∈ database.store.chunkRows) : ¬ LacksImage (rowToRetrieved row score) := by
  -- Every page of a well-made database has the key of its image.
  obtain ⟨document, stored, chunk, -, owned, rfl⟩ := owner_of_row member
  rintro ⟨kind, absent⟩
  obtain ⟨-, pageNo, -, values⟩ := ((made document stored).pdf kind).pages _ owned
  change chunk.values.pngR2Key = none at absent
  rw [values] at absent
  cases absent

/-- The links of a row of a well-made database lead into it. -/
theorem leadsInto_of_row {links : String × Option String} (made : database.WellMade library)
    (member : row ∈ database.store.chunkRows)
    (linked : sourceLinks services (rowToRetrieved row score) = .ok links) :
    LeadsInto services database links.1 links.2 := by
  -- A page links into the file of its document, and a section to its own address.
  obtain ⟨document, stored, chunk, -, owned, rfl⟩ := owner_of_row member
  unfold sourceLinks at linked
  cases kind : document.sourceType with
  | pdf =>
    have manual := (made document stored).pdf kind
    obtain ⟨-, pageNo, positive, values⟩ := manual.pages _ owned
    have numbered : chunk.values.ordinal = pageNo := congrArg ChunkValues.ordinal values
    -- The key of the image carries the number of the page.
    have keyed : chunk.values.pngR2Key = some (pngKey document.sourceRef pageNo) :=
      congrArg ChunkValues.pngR2Key values
    have filled : pngKey document.sourceRef pageNo ≠ "" := by
      simp [pngKey]
    simp only [rowToRetrieved, ChunkRow.join, kind, keyed, if_neg filled, numbered,
      manual.sourceUrl] at linked
    obtain ⟨file, resolved, linked⟩ := bind_eq_ok.mp linked
    obtain ⟨screenshot, imaged, linked⟩ := bind_eq_ok.mp linked
    obtain ⟨image, drawn, rfl⟩ := map_eq_ok.mp imaged
    obtain rfl := pure_eq_ok.mp linked
    exact .page stored kind owned numbered positive resolved drawn
  | html =>
    -- The address of a section was stored with its anchor.
    obtain ⟨-, -, -, anchor, address⟩ :=
      ((made document stored).html kind).sections _ owned
    simp only [rowToRetrieved, ChunkRow.join, kind] at linked
    obtain rfl := Except.ok.inj linked
    dsimp only
    rw [address]
    exact .block stored kind owned address

/-- The link of a page leads into every database that the page's database endures in. -/
theorem LeadsInto.of_endures {later : Database} {sourceUrl : String} {screenshotUrl : Option String}
    (leads : LeadsInto services database sourceUrl screenshotUrl) (shown : screenshotUrl ≠ none)
    (endures : database.Endures later) : LeadsInto services later sourceUrl screenshotUrl := by
  -- A manual keeps its link and its chunks; only a page has an image.
  cases leads with
  | page stored kind owned numbered positive resolved imaged =>
    obtain ⟨document, remains, held⟩ := endures.documents _ stored
    obtain ⟨-, -, chunks⟩ := held.pdf kind
    rw [← held.sourceRef] at resolved imaged
    refine .page remains (held.sourceType.trans kind) ?_ numbered positive resolved imaged
    rw [Store.chunksOf_eq, Store.contentsOf] at owned ⊢
    rwa [held.id, chunks]
  | block => exact absurd rfl shown

/-- The links of a row are links into the database the row was read from. -/
theorem linkAmong_of_row {links : String × Option String} (read : RowAmong library moments row)
    (linked : sourceLinks services (rowToRetrieved row score) = .ok links) :
    LinkAmong services library moments links.1 links.2 := by
  -- The database of any moment is well made, and endures what comes later.
  obtain ⟨history, moment, member⟩ := read
  have leads := leadsInto_of_row (wellMade_databaseAfter library history) member linked
  exact ⟨history, moment, leads, fun shown later =>
    leads.of_endures shown (endures_databaseAfter library history later)⟩

section Failures

variable {failure : RouteFailure} {hit : RetrievedChunk} {index : Nat}

/-- A call outside of any handler fails in a foreseen way. -/
theorem foreseen_of_uncaughtBy {ε α : Type} {call : Except ε α}
    (failed : uncaughtBy call = .error failure) : failure.Foreseen := by
  -- A failure that no handler names is uncaught.
  cases call with
  | ok value => cases failed
  | error raised =>
    obtain rfl := Except.error.inj failed
    trivial

/-- A key is resolved or fails in a foreseen way. -/
theorem foreseen_of_resolveUrl {key : String} (failed : resolveUrl services key = .error failure) :
    failure.Foreseen := by
  -- Only the signing of the link can fail.
  unfold resolveUrl at failed
  split at failed
  · cases failed
  · exact foreseen_of_uncaughtBy failed

/-- A hit with its image is presented or fails in a foreseen way. -/
theorem foreseen_of_candidateOf (imaged : ¬ LacksImage hit)
    (failed : candidateOf services hit index = .error failure) : failure.Foreseen := by
  unfold candidateOf at failed
  cases kind : hit.sourceType with
  | pdf =>
    rw [kind] at failed
    cases stored : hit.pngR2Key with
    | none => exact absurd ⟨kind, stored⟩ imaged
    | some key =>
      rw [stored] at failed
      rcases bind_eq_error.mp failed with unfetched | ⟨png, -, built⟩
      · -- Neither signing nor downloading answers with the status of a missing image.
        rcases bind_eq_error.mp unfetched with unsigned | ⟨url, -, refused⟩
        · exact foreseen_of_uncaughtBy unsigned
        · split at refused
          · cases refused
          · obtain rfl := Except.error.inj refused
            exact .tail _ (.head _)
          · obtain rfl := Except.error.inj refused
            trivial
      · cases built
  -- The text of a module is only read from the database.
  | html =>
    rw [kind] at failed
    rcases bind_eq_error.mp failed with unread | ⟨text, -, built⟩
    · unfold moduleText at unread
      split at unread
      · cases unread
      · rcases bind_eq_error.mp unread with uncaught | ⟨text, -, read⟩
        · exact foreseen_of_uncaughtBy uncaught
        · cases read
    · cases built

/-- The links of a hit are resolved or fail in a foreseen way. -/
theorem foreseen_of_sourceLinks (failed : sourceLinks services hit = .error failure) :
    failure.Foreseen := by
  -- A page resolves one link or two, and a section none.
  unfold sourceLinks at failed
  split at failed
  · cases failed
  · rcases bind_eq_error.mp failed with unresolved | ⟨url, -, failed⟩
    · exact foreseen_of_resolveUrl unresolved
    · rcases bind_eq_error.mp failed with undrawn | ⟨screenshot, -, done⟩
      · split at undrawn
        · cases undrawn
        · split at undrawn
          · cases undrawn
          · rename_i key _ _
            cases resolved : resolveUrl services key with
            | ok url =>
              rw [resolved] at undrawn
              cases undrawn
            | error raised =>
              rw [resolved] at undrawn
              obtain rfl := Except.error.inj undrawn
              exact foreseen_of_resolveUrl resolved
      · cases done

/-- A failed extraction becomes a foreseen failure. -/
theorem foreseen_extractionFailure (raised : ExtractionFailure) :
    (extractionFailure raised).Foreseen := by
  -- Each class of failure has a status of its own.
  unfold extractionFailure
  split
  · exact .tail _ (.tail _ (.head _))
  · exact .tail _ (.tail _ (.head _))
  · exact .tail _ (.head _)
  · trivial

/-- A response is made or fails in a foreseen way. -/
theorem foreseen_of_respond {entries : List Candidate} {answer : Answer}
    (failed : respond services hits entries answer = .error failure) : failure.Foreseen := by
  -- With a page that has an image, nothing is left to fail but a missing entry.
  unfold respond at failed
  split at failed
  · split at failed
    · rcases bind_eq_error.mp failed with unlinked | ⟨links, -, done⟩
      · split at unlinked
        · rcases bind_eq_error.mp unlinked with unresolved | ⟨url, -, done⟩
          · exact foreseen_of_resolveUrl unresolved
          · cases done
        · cases unlinked
      · cases done
    · obtain rfl := Except.error.inj failed
      trivial
  · cases failed

/-- A request whose hits all have their images is answered or fails in a foreseen way. -/
theorem foreseen_of_query {body : QueryRequest}
    (imaged : ∀ hits, services.search body.toQuery = .ok hits → ∀ hit ∈ hits, ¬ LacksImage hit)
    (failed : query services body = .error failure) : failure.Foreseen := by
  -- Each step of the route may be the one that fails.
  rcases bind_eq_error.mp failed with unsearched | ⟨hits, searched, failed⟩
  · obtain ⟨raised, -, rfl⟩ := mapError_eq_error.mp unsearched
    exact .tail _ (.tail _ (.head _))
  split at failed
  · obtain rfl := Except.error.inj failed
    exact .head _
  rcases bind_eq_error.mp failed with unbuilt | ⟨candidates, built, failed⟩
  · obtain ⟨_, ⟨hit, index⟩, _, split, -, unpresented⟩ := first_of_mapM_error unbuilt
    have member : (hit, index) ∈ hits.zipIdx 1 := split ▸ by simp
    exact foreseen_of_candidateOf
      (imaged hits (mapError_eq_ok.mp searched) hit (List.fst_mem_of_mem_zipIdx member)) unpresented
  rcases bind_eq_error.mp failed with unextracted | ⟨answer, -, failed⟩
  · obtain ⟨raised, -, rfl⟩ := mapError_eq_error.mp unextracted
    exact foreseen_extractionFailure raised
  rcases bind_eq_error.mp failed with unlinked | ⟨entries, -, failed⟩
  · obtain ⟨_, ⟨hit, candidate⟩, _, -, -, unresolved⟩ := first_of_mapM_error unlinked
    rcases bind_eq_error.mp unresolved with linkless | ⟨links, -, done⟩
    · exact foreseen_of_sourceLinks linkless
    · cases done
  · exact foreseen_of_respond failed

end Failures

section Responses

variable {body : QueryRequest} {candidates : List ExtractionCandidate} {entries : List Candidate}
  {response : AnswerResponse}

/-- The entries of a response are listed in it, and the cited link is one of them. -/
theorem links_of_respond {answer : Answer} (imaged : ∀ hit ∈ hits, ¬ LacksImage hit)
    (responded : respond services hits entries answer = .ok response) :
    response.candidates = entries ∧ ∀ url, response.sourceUrl = some url →
      ∃ entry ∈ entries, entry.sourceUrl = url ∧ entry.screenshotUrl = response.screenshotUrl := by
  -- The cited hit has its image, so its links are those of its entry.
  unfold respond at responded
  split at responded
  · split at responded
    · rename_i chosen entry located listed
      have whole : ¬ (chosen.sourceType = .pdf ∧ chosen.pngR2Key = none) :=
        imaged chosen (List.mem_of_getElem? located)
      rw [if_neg whole] at responded
      obtain rfl := Except.ok.inj responded
      refine ⟨rfl, fun url cited => ⟨entry, List.mem_of_getElem? listed, ?_, rfl⟩⟩
      exact Option.some.inj cited
    · cases responded
  · obtain rfl := Except.ok.inj responded
    refine ⟨rfl, fun url cited => ?_⟩
    cases cited

/-- A query answers with links into what the commands stored, and is never refused for an image. -/
theorem query_of_readsAmong (reads : session.ReadsAmong library moments)
    (wired : services.search = service.search order session) (body : QueryRequest) :
    (∀ failure, query services body = .error failure → failure.Foreseen) ∧
      ∀ response, query services body = .ok response →
        (∀ entry ∈ response.candidates,
          LinkAmong services library moments entry.sourceUrl entry.screenshotUrl) ∧
        ∀ url, response.sourceUrl = some url →
          LinkAmong services library moments url response.screenshotUrl := by
  -- Every hit is a row of some moment.
  have rows : ∀ hits, services.search body.toQuery = .ok hits → ∀ hit ∈ hits,
      ∃ row score, hit = rowToRetrieved row score ∧ RowAmong library moments row := by
    intro hits searched
    rw [wired] at searched
    exact row_of_hit reads searched
  -- In a well made database every page has its image.
  have imaged : ∀ hits, services.search body.toQuery = .ok hits → ∀ hit ∈ hits,
      ¬ LacksImage hit := by
    intro hits searched hit member
    obtain ⟨row, score, rfl, history, -, inside⟩ := rows hits searched hit member
    exact not_lacksImage_of_row (wellMade_databaseAfter library history) inside
  refine ⟨fun failure failed => foreseen_of_query imaged failed, fun response served => ?_⟩
  obtain ⟨hits, candidates, answer, entries, searched, built, -, linked, responded⟩ :=
    steps_of_query served
  -- Every entry carries the links of the hit at its place.
  have leads : ∀ entry ∈ entries,
      LinkAmong services library moments entry.sourceUrl entry.screenshotUrl := by
    intro entry member
    obtain ⟨place, listed⟩ := List.mem_iff_getElem?.mp member
    have inside : place < hits.length := by
      have length := length_of_entries linked
      have bound := (List.getElem?_eq_some_iff.mp listed).1
      omega
    have located := List.getElem?_eq_getElem inside
    have resolved := sourceLinks_of_entry linked located listed
    obtain ⟨row, score, same, read⟩ := rows hits searched _ (List.mem_of_getElem? located)
    rw [same] at resolved
    exact linkAmong_of_row read resolved
  obtain ⟨listing, cited⟩ := links_of_respond (imaged hits searched) responded
  refine ⟨listing ▸ leads, fun url promoted => ?_⟩
  -- The promoted links are those of an entry.
  obtain ⟨entry, member, rfl, screenshot⟩ := cited url promoted
  rw [← screenshot]
  exact leads entry member

end Responses

/-- An attempt whose pages are cut from the whole text of a file, of which three are rendered. -/
def formFeedAttempt : PdfAttempt :=
  { pikePagesAttempt with parsePdf := parsePdf formFeedRun }

/-- The ingestion of that file. -/
def pikeCommands : List Command :=
  [.ingestPdf (.ingest formFeedAttempt) fun attempt member => by
    obtain rfl := List.mem_singleton.mp member
    exact ⟨⟨formFeedRun, rfl⟩, ⟨pikeFile, rfl⟩⟩]

/-- The rows of the pages that it indexes. -/
def pikeRows : List ChunkRow :=
  [((1 : Nat), "Torque 10 N·m"), (3, "Torque 12 N·m")].zipIdx.map fun ((pageNo, text), place) =>
    -- The page in between is blank and was not rendered.
    { chunkId := place + 1, documentId := 1, ordinal := pageNo, text
      pngR2Key := some (pngKey pikeSha256 pageNo), anchor := none, parentAnchor := none
      sourceUrl := pdfKey pikeSha256 ++ "#page=" ++ toString pageNo, sourceType := .pdf
      documentTitle := "pike.pdf", documentSourceUrl := pdfKey pikeSha256
      productFamily := some "pike", brand := none }

/-- They are what the database holds after the ingestion. -/
theorem chunkRows_pike :
    (databaseAfter pikeLibrary pikeCommands).store.chunkRows = pikeRows := by
  decide +kernel

/-- An embedder whose stub answers in place of the service. -/
def stubEmbedder : VoyageEmbedder where
  model := "voyage-3"
  -- The service is never asked.
  stub := true
  stubEmbed _ := []
  service _ _ := .raised

/-- A session that finds the third page by its words and reads these rows. -/
def pikeSession : Session where
  embedQuery := stubEmbedder.queryEmbedding []
  keywordQuery _ topK := .ok ([(2, 1)].take topK)
  vectorQuery _ _ := .ok []
  loadChunks chunkIds := .ok (pikeRows.filter fun row => row.chunkId ∈ chunkIds)
  -- The neighbours are read from the same rows.
  loadDocNeighbors documentId low high := .ok (pikeRows.filter fun row =>
    row.documentId = documentId ∧ low ≤ row.ordinal ∧ row.ordinal ≤ high)

/-- The session only reads what the database holds. -/
theorem pikeSession_readsAmong : pikeSession.ReadsAmong pikeLibrary {pikeCommands} where
  -- The rows are those of the one moment there is.
  chunks chunkIds rows loaded row member := by
    obtain rfl := Except.ok.inj loaded
    exact ⟨pikeCommands, rfl, chunkRows_pike ▸ List.mem_of_mem_filter member⟩
  neighbors documentId low high rows loaded row member := by
    obtain rfl := Except.ok.inj loaded
    exact ⟨pikeCommands, rfl, chunkRows_pike ▸ List.mem_of_mem_filter member⟩

/-- Services that search with it, and a model that cites the second source. -/
def pikeServices : ApiServices :=
  let service : RetrievalService := { pageWindow := 2 }
  { pageAndSection with search := service.search .textual pikeSession }

/-- The first page is served as the neighbour of the third, with its own link. -/
theorem query_of_readsAmong_pike :
    ∃ response, query pikeServices topCapQuestion = .ok response ∧
      response.sourceUrl =
        some ("https://assets.example/pdfs/" ++ pikeSha256 ++ ".pdf#page=1") ∧
      LinkAmong pikeServices pikeLibrary {pikeCommands}
        ("https://assets.example/pdfs/" ++ pikeSha256 ++ ".pdf#page=1")
        response.screenshotUrl := by
  -- The promoted link shows which page was cited.
  have link : (query pikeServices topCapQuestion).toOption.bind AnswerResponse.sourceUrl =
      some ("https://assets.example/pdfs/" ++ pikeSha256 ++ ".pdf#page=1") := by decide +kernel
  cases served : query pikeServices topCapQuestion with
  | error failure => simp [served, Except.toOption] at link
  | ok response =>
    rw [served] at link
    have answers :=
      (query_of_readsAmong pikeSession_readsAmong rfl topCapQuestion).2 response served
    exact ⟨response, rfl, link, answers.2 _ link⟩

end TorqueFinder
