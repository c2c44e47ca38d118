import TorqueFinder.Retrieval.Embedder

/-! The requests of the embedder: what they carry, and which vectors they leave. -/

namespace TorqueFinder

open Transaction Batching

/-- The limits of a request. -/
def requestLimits : Limits String where
  -- The limits of the service on the texts and the tokens of one request.
  weight := estimateTokens
  maxCount := maxBatchTexts
  maxWeight := maxBatchTokens
  maxCount_pos := by decide

/-- The batches of some texts. -/
def batches (texts : List String) : List (List String) := requestLimits.fill [] (texts.map clip)

/-- Requests carry some texts in their order, in batches that are filled as far as they go. -/
structure Batched (texts : List String) (requests : List VoyageRequest) : Prop where
  each : ∀ request ∈ requests, request.texts ≠ [] ∧ request.texts.length ≤ maxBatchTexts ∧
    (request.texts.map estimateTokens).sum ≤ maxBatchTokens
  /-- With the first text of the next request, a request would exceed a limit. -/
  unmergeable : requests.IsChain fun first second => ∀ text ∈ second.texts.head?,
    maxBatchTexts < (first.texts ++ [text]).length ∨
      maxBatchTokens < ((first.texts ++ [text]).map estimateTokens).sum
  in_order : requests.flatMap VoyageRequest.texts = texts.map clip

namespace VoyageEmbedder

/-- The request for the embeddings of some texts. -/
def request (embedder : VoyageEmbedder) (inputType : String) (texts : List String) :
    VoyageRequest :=
  -- All requests of an embedder name its model.
  { texts, model := embedder.model, inputType }

/-- The request for the embeddings of some pages. -/
def documentRequest (embedder : VoyageEmbedder) (texts : List String) : VoyageRequest :=
  embedder.request documentInputType texts

/-- Send batches one after the other. -/
def sendAll (embedder : VoyageEmbedder) :
    List (List String) → EStateM RetrievalError (List VoyageRequest) (List Embedding)
  -- The batches are sent in order, and the first failure ends the call.
  | [] => pure []
  | batch :: rest => do
    let vectors ← embedder.embed batch documentInputType
    let more ← embedder.sendAll rest
    return vectors ++ more

/-- Requests are all answered, and the vectors of the answers follow one another. -/
inductive Replies (embedder : VoyageEmbedder) :
    List VoyageRequest → List VoyageRequest → List Embedding → Prop where
  | nil {asked : List VoyageRequest} : Replies embedder asked [] []
  | cons {asked rest : List VoyageRequest} {request : VoyageRequest}
      {vectors more : List Embedding} (answers : embedder.Answers asked request vectors)
      (others : Replies embedder (asked ++ [request]) rest more) :
      Replies embedder asked (request :: rest) (vectors ++ more)

/-- Every request is answered, after the ones before it. -/
def AllAnswered (embedder : VoyageEmbedder) (asked requests : List VoyageRequest) : Prop :=
  -- Each request meets the service as the requests before it have left it.
  ∀ k request, requests[k]? = some request →
    ∃ answer, embedder.Answers (asked ++ requests.take k) request answer

/-- Each text has the vector that answered it, and there are no others. -/
structure Aligned (embedder : VoyageEmbedder) (asked requests : List VoyageRequest)
    (texts : List String) (vectors : List Embedding) : Prop where
  one_each : vectors.length = texts.length
  answered : ∀ i text, texts[i]? = some text →
    ∃ k j request answer vector, requests[k]? = some request ∧
      i = ((requests.take k).flatMap VoyageRequest.texts).length + j ∧
        request.texts[j]? = some (clip text) ∧
          embedder.Answers (asked ++ requests.take k) request answer ∧
            answer[j]? = some vector ∧ vectors[i]? = some vector

variable {embedder : VoyageEmbedder} {asked requests : List VoyageRequest}
  {texts : List String} {state : BatchState} {vectors : List Embedding}

/-- A request is sent, and succeeds with the vectors that answer it. -/
theorem embed_cases (embedder : VoyageEmbedder) (texts : List String) (inputType : String)
    (asked : List VoyageRequest) :
    (∃ vectors, embedder.embed texts inputType asked =
        .ok vectors (asked ++ [embedder.request inputType texts]) ∧
      embedder.Answers asked (embedder.request inputType texts) vectors) ∨
    (∃ error, embedder.embed texts inputType asked =
        .error error (asked ++ [embedder.request inputType texts]) ∧
      ∀ vectors, ¬ embedder.Answers asked (embedder.request inputType texts) vectors) := by
  unfold embed Answers request
  dsimp only
  split
  · exact .inl ⟨_, rfl, rfl, List.length_map _⟩
  -- Without the stub the answer of the service decides.
  generalize embedder.service asked
    { texts, model := embedder.model, inputType } = reply
  cases reply with
  | raised => exact .inr ⟨_, rfl, fun vectors answers => nomatch answers.1⟩
  | answered embeddings =>
    cases embeddings with
    | none => exact .inr ⟨_, rfl, fun vectors answers => nomatch answers.1⟩
    | some embeddings =>
      dsimp only
      split
      · rename_i short
        refine .inr ⟨_, rfl, fun vectors answers => ?_⟩
        obtain ⟨⟨⟩, enough⟩ := answers
        exact short enough
      · rename_i enough
        exact .inl ⟨embeddings, rfl, rfl, not_not.mp enough⟩

/-- A question that is embedded has a vector. -/
theorem embedQuery_isSome {text : String} {vector : Option Embedding}
    {next : List VoyageRequest} (done : embedder.embedQuery text asked = .ok vector next) :
    vector.isSome := by
  -- The answer has one vector for the one text.
  obtain ⟨vectors, _, sends, first⟩ := Transaction.bind_eq_ok.mp done
  obtain ⟨rfl, _⟩ := Transaction.pure_eq_ok.mp first
  obtain ⟨answer, sent, answers⟩ | ⟨error, failed, _⟩ :=
    embedder.embed_cases [text] queryInputType asked
  · obtain ⟨rfl, _⟩ := EStateM.Result.ok.inj (sent.symm.trans sends)
    have one : answer.length = 1 := answers.2
    simp [one]
  · cases failed.symm.trans sends

/-- What a search gets for its question after some requests: a vector, or the embedder's error. -/
def queryEmbedding (embedder : VoyageEmbedder) (asked : List VoyageRequest) (text : String) :
    Except RetrievalError Embedding :=
  match embedded : embedder.embedQuery text asked with
  -- The first vector is never missing, so reading it raises nothing.
  | .ok vector _ => .ok (vector.get (embedQuery_isSome embedded))
  | .error error _ => .error error

/-- The loop sends the batches that the remaining texts are filled into. -/
theorem embedLoop_eq (embedder : VoyageEmbedder) (texts : List String) (state : BatchState)
    (counted : state.batchTokens = requestLimits.load state.batch) :
    embedder.embedLoop texts state = (do
      let more ← embedder.sendAll (requestLimits.fill state.batch (texts.map clip))
      return state.vectors ++ more) := by
  -- A flush sends the batch, and otherwise the text goes into it; the tokens are counted along.
  induction texts generalizing state with
  | nil =>
    rw [embedLoop, List.map_nil, Limits.fill]
    split
    · rw [sendAll, pure_bind, List.append_nil]
    · simp only [flush, sendAll, bind_assoc, pure_bind, List.append_nil]
  | cons text rest ih =>
    rw [embedLoop, List.map_cons, Limits.fill]
    dsimp only
    -- The counted tokens are the load of the batch.
    have decides : (maxBatchTexts ≤ state.batch.length ∨
        maxBatchTokens < state.batchTokens + estimateTokens (clip text)) ↔
          requestLimits.Exceeds state.batch (clip text) := by
      rw [counted]
      rfl
    -- Adding the text adds its tokens.
    have carried : ∀ ready : BatchState, ready.batchTokens = requestLimits.load ready.batch →
        ready.batchTokens + estimateTokens (clip text) =
          requestLimits.load (ready.batch ++ [clip text]) := by
      intro ready kept
      rw [Limits.load_concat, kept]
      rfl
    simp only [decides]
    split
    · simp only [flush, sendAll, bind_assoc, pure_bind]
      refine bind_congr fun vectors => ?_
      rw [ih _ (carried { vectors := state.vectors ++ vectors } rfl)]
      simp [List.append_assoc]
    · rw [pure_bind, ih _ (carried state counted)]

/-- Batches are sent up to the first one that is not answered. -/
theorem sendAll_cases (embedder : VoyageEmbedder) (batches : List (List String))
    (asked : List VoyageRequest) :
    (∃ vectors, embedder.sendAll batches asked =
        .ok vectors (asked ++ batches.map embedder.documentRequest) ∧
      embedder.Replies asked (batches.map embedder.documentRequest) vectors) ∨
    (∃ sent failed unsent error, batches.map embedder.documentRequest = sent ++ failed :: unsent ∧
      embedder.sendAll batches asked = .error error (asked ++ (sent ++ [failed])) ∧
        ∀ vectors, ¬ embedder.Answers (asked ++ sent) failed vectors) := by
  induction batches generalizing asked with
  | nil => exact .inl ⟨[], by rw [List.map_nil, List.append_nil]; rfl, .nil⟩
  | cons batch rest ih =>
    simp only [sendAll, Bind.bind, EStateM.bind, List.map_cons]
    have begins := embedder.embed_cases batch documentInputType asked
    rw [← documentRequest] at begins
    obtain ⟨first, sent, answers⟩ | ⟨error, sent, unanswered⟩ := begins
    · rw [sent]
      dsimp only
      -- The remaining batches are sent behind the one that was answered.
      obtain ⟨more, all, others⟩ | ⟨done, failed, unsent, error, split, stops, unanswered⟩ :=
        ih (asked ++ [embedder.documentRequest batch])
      · rw [all]
        exact .inl ⟨first ++ more, by simp [pure, EStateM.pure], .cons answers others⟩
      · rw [stops]
        refine .inr ⟨embedder.documentRequest batch :: done, failed, unsent, error, ?_, ?_, ?_⟩
        · rw [split, List.cons_append]
        · simp
        · simpa using unanswered
    · -- The first batch fails, and nothing is sent behind it.
      rw [sent]
      refine .inr ⟨[], embedder.documentRequest batch, rest.map embedder.documentRequest, error,
        rfl, rfl, ?_⟩
      simpa using unanswered

/-- Answered requests leave one vector for each of their texts. -/
theorem Replies.length_eq (replies : embedder.Replies asked requests vectors) :
    vectors.length = (requests.flatMap VoyageRequest.texts).length := by
  -- Each answer has as many vectors as its request has texts.
  induction replies with
  | nil => rfl
  | cons answers _ ih =>
    rw [List.length_append, List.flatMap_cons, List.length_append, ih, answers.2]

/-- The vector at each place is the one that the service gave for the text at that place. -/
theorem Replies.at_place (replies : embedder.Replies asked requests vectors) {i : Nat}
    {text : String} (found : (requests.flatMap VoyageRequest.texts)[i]? = some text) :
    ∃ k j request answer vector, requests[k]? = some request ∧
      i = ((requests.take k).flatMap VoyageRequest.texts).length + j ∧
        request.texts[j]? = some text ∧
          embedder.Answers (asked ++ requests.take k) request answer ∧
            answer[j]? = some vector ∧ vectors[i]? = some vector := by
  induction replies generalizing i with
  | nil => cases found
  | @cons asked rest request vectors more answers others ih =>
    rw [List.flatMap_cons] at found
    by_cases inside : i < request.texts.length
    · -- The text is one of the first request.
      rw [List.getElem?_append_left inside] at found
      have place : i < vectors.length := answers.2 ▸ inside
      refine ⟨0, i, request, vectors, vectors[i], rfl, ?_, found, ?_,
        List.getElem?_eq_getElem place, ?_⟩
      · simp
      · simpa using answers
      · rw [List.getElem?_append_left place, List.getElem?_eq_getElem place]
    · -- Otherwise it is counted from the end of the first request.
      have behind : request.texts.length ≤ i := not_lt.mp inside
      rw [List.getElem?_append_right behind] at found
      obtain ⟨k, j, later, answer, vector, at_k, position, at_j, answered, given, result⟩ :=
        ih found
      refine ⟨k + 1, j, later, answer, vector, at_k, ?_, at_j, ?_, given, ?_⟩
      · rw [List.take_succ_cons, List.flatMap_cons, List.length_append]
        omega
      · simpa using answered
      · rw [List.getElem?_append_right (answers.2 ▸ behind), answers.2]
        exact result

/-- Answered requests are answered one after the other. -/
theorem Replies.allAnswered (replies : embedder.Replies asked requests vectors) :
    embedder.AllAnswered asked requests := by
  -- A later request is answered behind the first one.
  induction replies with
  | nil =>
    intro k request found
    cases found
  | @cons asked rest request vectors more answers others ih =>
    intro k later found
    cases k with
    | zero =>
      obtain rfl := Option.some.inj found
      exact ⟨vectors, by simpa using answers⟩
    | succ k =>
      obtain ⟨answer, answered⟩ := ih k later found
      exact ⟨answer, by simpa using answered⟩

/-- Pages are embedded by sending their batches. -/
theorem embedDocuments_eq (embedder : VoyageEmbedder) (texts : List String) :
    embedder.embedDocuments texts = embedder.sendAll (batches texts) := by
  -- Without texts there is no batch, and nothing is sent.
  unfold embedDocuments
  split
  · rename_i empty
    rw [empty]
    rfl
  · rw [embedLoop_eq embedder texts {} rfl]
    simp [batches]

/-- The requests for the batches of some texts carry these texts, as far as they are embedded. -/
theorem batched_batches (embedder : VoyageEmbedder) (texts : List String) :
    Batched texts ((batches texts).map embedder.documentRequest) := by
  -- A clipped text is light enough for a request of its own.
  have light : ∀ text ∈ texts.map clip, requestLimits.weight text ≤ requestLimits.maxWeight := by
    intro text member
    obtain ⟨original, _, rfl⟩ := List.mem_map.mp member
    have short : (clip original).length ≤ maxTextChars := by
      rw [clip, String.length_ofList]
      exact List.length_take_le _ _
    show max 1 ((clip original).length / 3) ≤ maxBatchTokens
    simp only [maxTextChars, maxBatchTokens] at short ⊢
    omega
  refine ⟨fun request member => ?_, ?_, ?_⟩
  · obtain ⟨batch, filled, rfl⟩ := List.mem_map.mp member
    have fits := Limits.fits_of_mem_fill (.inl rfl) light batch filled
    exact ⟨fits.nonempty, fits.few, fits.light⟩
  · refine (List.isChain_map _).mpr ((Limits.fill_unmergeable _ _).imp ?_)
    intro first second unmergeable text head
    rcases unmergeable text head with many | heavy
    · refine .inl ?_
      rw [List.length_append, List.length_singleton]
      exact Nat.lt_succ_of_le many
    · refine .inr ?_
      rw [List.map_append, List.sum_append, List.map_singleton, List.sum_singleton]
      exact heavy
  · rw [List.flatMap_map]
    show (batches texts).flatMap id = _
    rw [List.flatMap_id]
    exact Limits.flatten_fill requestLimits [] (texts.map clip)

/-- Pages are embedded in batches, which leave the order and the number of the vectors alone. -/
theorem embedDocuments_in_batches (embedder : VoyageEmbedder) (texts : List String)
    (asked : List VoyageRequest) :
    ∃ sent unsent, Batched texts (sent ++ unsent) ∧
      (embedder.AllAnswered asked sent → unsent = [] ∧
        ∃ vectors, embedder.embedDocuments texts asked = .ok vectors (asked ++ sent) ∧
          embedder.Aligned asked sent texts vectors) ∧
      (¬ embedder.AllAnswered asked sent →
        ∃ error, embedder.embedDocuments texts asked = .error error (asked ++ sent)) := by
  have batched := batched_batches embedder texts
  rw [embedDocuments_eq]
  obtain ⟨vectors, all, replies⟩ | ⟨done, failed, unsent, error, split, stops, unanswered⟩ :=
    embedder.sendAll_cases (batches texts) asked
  · refine ⟨_, [], by simpa using batched, fun _ => ⟨rfl, vectors, all, ?_⟩,
      fun missing => absurd replies.allAnswered missing⟩
    constructor
    · rw [replies.length_eq, batched.in_order, List.length_map]
    · intro i text found
      refine replies.at_place ?_
      rw [batched.in_order, List.getElem?_map, found, Option.map_some]
  · -- The last request that is sent is the one without an answer.
    refine ⟨done ++ [failed], unsent, ?_, fun answered => ?_, fun _ => ⟨error, stops⟩⟩
    · rw [split] at batched
      simpa using batched
    · obtain ⟨answer, given⟩ := answered done.length failed (by simp)
      refine absurd ?_ (unanswered answer)
      simpa using given

end VoyageEmbedder

end TorqueFinder
