import TorqueFinder.Ingestion.IngestBatch

/-! The pages whose data has a shape the parser does not expect. -/

namespace TorqueFinder

open PyText PyJson ExceptFlow

/-- A loop over the value, or over nothing when it is falsy, visits something. -/
def Visitable : Json → Prop
  -- Python iterates over lists, texts and dictionaries, and the or skips what is falsy.
  | .arr _ | .str _ | .obj _ => True
  | value => value.truthy = false

/-- The data is an object, and so far as it nests modules and children, loops can visit them. -/
def WellShaped (data : Json) : Prop :=
  -- Only these two fields are iterated over.
  isObject data = true ∧ Visitable (data.get "modules") ∧
    ∀ module ∈ itemsOf (data.get "modules"), isObject module = true →
      Visitable (module.get "children")

/-- The page cannot be fetched, has no data block or malformed JSON, or has data of that shape. -/
def Readable (pipeline : HtmlIngestionPipeline) (pub : RegisteredPublication) : Prop :=
  ∀ html, pipeline.fetch pub.sourceUrl = some html →
    ∀ raw, extractManualDataJson html = .ok raw →
      -- A decode error is caught and reported like other failures.
      pipeline.library.loads raw = .error .jsonDecodeError ∨
        ∃ data, pipeline.library.loads raw = .ok data ∧ WellShaped data

/-- The value or an empty list can be visited exactly when the value is visitable. -/
theorem iterate_ok_iff (value : Json) :
    (∃ items, iterate (value.or (.arr [])) = .ok items) ↔ Visitable value := by
  -- A falsy value is replaced by the empty list, which is visited.
  cases value with
  | arr items => cases items <;> simp [Json.or, Json.truthy, iterate, Visitable]
  | str text =>
    by_cases empty : text = "" <;> simp [Json.or, Json.truthy, iterate, Visitable, empty]
  | obj fields => cases fields <;> simp [Json.or, Json.truthy, iterate, Visitable]
  | null => simp [Json.or, Json.truthy, iterate, Visitable]
  | bool value => cases value <;> simp [Json.or, Json.truthy, iterate, Visitable]
  | int value => by_cases zero : value = 0 <;> simp [Json.or, Json.truthy, iterate, Visitable, zero]
  | float value =>
    cases value with
    | finite number =>
      by_cases zero : number = 0 <;> simp [Json.or, Json.truthy, iterate, Visitable, zero]
    | _ => simp [Json.or, Json.truthy, iterate, Visitable]

variable {library : PageLibrary}

/-- Every value has a stripped text. -/
theorem strippedText_ok (printable : library.Printable) (value : Json) :
    ∃ text, strippedText library value = .ok text :=
  map_ok (printable _)

/-- Every node may have an anchor. -/
theorem hashOf_ok (printable : library.Printable) (node : Json) :
    ∃ anchor, hashOf library node = .ok anchor :=
  bind_ok (strippedText_ok printable _) fun _ => ⟨_, rfl⟩

/-- The captions of every value can be read. -/
theorem imageCaptions_ok (printable : library.Printable) (images : Json) :
    ∃ captions, imageCaptions library images = .ok captions := by
  -- Every caption can be printed.
  cases images with
  | arr images =>
    refine bind_ok (mapM_ok_of_forall fun image _ => ?_) fun _ => ⟨_, rfl⟩
    exact bind_ok (mapM_ok_of_forall fun key _ => strippedText_ok printable _) fun _ => ⟨_, rfl⟩
  | _ => exact ⟨[], rfl⟩

mutual

/-- The texts of every content can be read. -/
theorem contentTexts_ok (printable : library.Printable) (content : Json) :
    ∃ texts, contentTexts library content = .ok texts := by
  match content with
  | .str fragment => exact ⟨_, by rw [contentTexts]⟩
  | .obj fields =>
    rw [contentTexts]
    exact bind_ok (imageCaptions_ok printable _) fun _ => ⟨_, rfl⟩
  -- The lists are visited to any depth.
  | .arr items =>
    rw [contentTexts]
    exact contentTextsAll_ok printable items
  | .null => exact ⟨_, by rw [contentTexts]⟩
  | .bool _ => exact ⟨_, by rw [contentTexts]⟩
  | .int _ => exact ⟨_, by rw [contentTexts]⟩
  | .float _ => exact ⟨_, by rw [contentTexts]⟩

/-- The texts of every list of contents can be read. -/
theorem contentTextsAll_ok (printable : library.Printable) (items : List Json) :
    ∃ texts, contentTextsAll library items = .ok texts := by
  -- Every item has texts, and so has the list.
  match items with
  | [] => exact ⟨_, by rw [contentTextsAll]⟩
  | item :: rest =>
    rw [contentTextsAll]
    exact bind_ok (contentTexts_ok printable item) fun _ =>
      bind_ok (contentTextsAll_ok printable rest) fun _ => ⟨_, rfl⟩

end

/-- Every tool has a text. -/
theorem toolText_ok (printable : library.Printable) (item : Json) :
    ∃ text, toolText library item = .ok text := by
  cases item with
  | obj fields =>
    refine bind_ok (strippedText_ok printable _) fun label => bind_ok ?_ fun _ => ⟨_, rfl⟩
    unfold toolValue
    -- The value of a tool is a list or printed as it is.
    split
    · exact bind_ok (mapM_ok_of_forall fun _ _ => printable _) fun _ => ⟨_, rfl⟩
    · exact map_ok (printable _)
  | _ => exact ⟨_, rfl⟩

/-- Every tool list has a text. -/
theorem toolListText_ok (printable : library.Printable) (toolList : Json) :
    ∃ text, toolListText library toolList = .ok text := by
  -- A value that is no list of tools has no text.
  unfold toolListText
  dsimp only
  split
  · exact bind_ok (mapM_ok_of_forall fun _ _ => toolText_ok printable _) fun _ => ⟨_, rfl⟩
  · exact ⟨_, rfl⟩

/-- Every child has a text. -/
theorem blockText_ok (printable : library.Printable) (child : Json) :
    ∃ text, blockText library child = .ok text := by
  -- Whatever kind the child is of, each of its texts can be read.
  refine bind_ok (strippedText_ok printable _) fun title => bind_ok (printable _) fun kind =>
    bind_ok ?_ fun _ => ⟨_, rfl⟩
  split
  · exact bind_ok (toolListText_ok printable _) fun _ => ⟨_, rfl⟩
  · exact bind_ok (contentTexts_ok printable _) fun _ =>
      bind_ok (imageCaptions_ok printable _) fun _ =>
        bind_ok (toolListText_ok printable _) fun _ => ⟨_, rfl⟩

/-- A module can be read exactly when its children can be visited. -/
theorem moduleBlocks_ok_iff (printable : library.Printable) (module : Json) :
    (∃ blocks, moduleBlocks library module = .ok blocks) ↔ Visitable (module.get "children") := by
  -- Only the loop over the children can fail.
  rw [← iterate_ok_iff]
  constructor
  · intro readable
    obtain ⟨blocks, read⟩ := readable
    obtain ⟨_, _, read⟩ := bind_eq_ok.mp read
    obtain ⟨_, _, read⟩ := bind_eq_ok.mp read
    obtain ⟨_, _, read⟩ := bind_eq_ok.mp read
    obtain ⟨children, visited, _⟩ := bind_eq_ok.mp read
    exact ⟨children, visited⟩
  · intro visited
    refine bind_ok (hashOf_ok printable _) fun hash => bind_ok (strippedText_ok printable _)
      fun title => bind_ok (toolListText_ok printable _) fun tools => bind_ok visited
        fun children => bind_ok (mapM_ok_of_forall fun child _ => ?_) fun _ => ⟨_, rfl⟩
    exact bind_ok (blockText_ok printable _) fun _ => bind_ok (hashOf_ok printable _)
      fun _ => ⟨_, rfl⟩

/-- The modules can be read exactly when they and the children of each can be visited. -/
theorem publicationBlocks_ok_iff (printable : library.Printable)
    (data : Json) :
    (∃ blocks, publicationBlocks library data = .ok blocks) ↔
      Visitable (data.get "modules") ∧
        ∀ module ∈ itemsOf (data.get "modules"), isObject module = true →
          Visitable (module.get "children") := by
  -- The loop over the modules fails by itself, or in the first module that cannot be read.
  constructor
  · intro readable
    obtain ⟨blocks, read⟩ := readable
    obtain ⟨_, _, read⟩ := bind_eq_ok.mp read
    obtain ⟨modules, visited, read⟩ := bind_eq_ok.mp read
    obtain ⟨divided, each, _⟩ := bind_eq_ok.mp read
    refine ⟨(iterate_ok_iff _).mp ⟨modules, visited⟩, fun module member object => ?_⟩
    have among : module ∈ modules.filter isObject := by
      rw [objects_of_iterate visited]
      exact List.mem_filter.mpr ⟨member, object⟩
    exact (moduleBlocks_ok_iff printable module).mp (mapM_ok_iff.mp ⟨divided, each⟩ module among)
  · intro shaped
    obtain ⟨visitable, each⟩ := shaped
    obtain ⟨modules, visited⟩ := (iterate_ok_iff _).mpr visitable
    obtain ⟨divided, read⟩ : ∃ divided,
        (modules.filter isObject).mapM (moduleBlocks library) = .ok divided := by
      refine mapM_ok_iff.mpr fun module member => (moduleBlocks_ok_iff printable module).mpr ?_
      rw [objects_of_iterate visited] at member
      exact each module (List.mem_of_mem_filter member) (List.of_mem_filter member)
    refine bind_ok (toolListText_ok printable _) fun tools => ?_
    simp only [visited, read, ok_bind]
    exact ⟨_, rfl⟩

/-- Data can be read exactly when it has the expected shape. -/
theorem publicationOfJson_ok_iff (printable : library.Printable)
    (data : Json) (baseUrl : String) :
    (∃ parsed, publicationOfJson library data baseUrl = .ok parsed) ↔ WellShaped data := by
  -- Only an object has fields to get.
  cases data with
  | obj fields =>
    rw [WellShaped, ← publicationBlocks_ok_iff printable]
    constructor
    · intro readable
      obtain ⟨parsed, read⟩ := readable
      obtain ⟨_, _, read⟩ := bind_eq_ok.mp read
      obtain ⟨_, _, read⟩ := bind_eq_ok.mp read
      obtain ⟨blocks, divided, _⟩ := bind_eq_ok.mp read
      exact ⟨rfl, blocks, divided⟩
    · intro shaped
      obtain ⟨_, divided⟩ := shaped
      exact bind_ok ⟨_, rfl⟩ fun field => bind_ok (strippedText_ok printable field) fun title =>
        bind_ok divided fun blocks => ⟨_, rfl⟩
  | _ => simp [publicationOfJson, Json.field, WellShaped, isObject]

variable {pipeline : HtmlIngestionPipeline} {pub : RegisteredPublication} {html : String}
  {database : Database}

/-- Storing what was read fails only with the error the callers expect. -/
theorem ingestFetched_onlyIngestionErrors
    (read : OnlyIngestionErrors (parsePublication pipeline.library html pub.sourceUrl)) :
    OnlyIngestionErrors (ingestFetched pipeline pub html database) := by
  intro failure failed
  rcases bind_eq_error.mp failed with unread | ⟨parsed, parsedPage, failed⟩
  · exact read failure unread
  split at failed
  · cases failed
    exact ⟨_, rfl⟩
  rcases bind_eq_error.mp failed with unembedded | ⟨embeddings, embedded, failed⟩
  · unfold embedChunks at unembedded
    split at unembedded
    · cases unembedded
      exact ⟨_, rfl⟩
    · split at unembedded
      · cases unembedded
        exact ⟨_, rfl⟩
      · cases unembedded
  rcases bind_eq_error.mp failed with unstored | ⟨⟨store, document⟩, _, failed⟩
  · -- The numbered chunks violate no constraint, so only the kind of the document can be wrong.
    obtain ⟨refused, refusal, rfl⟩ := mapError_eq_error.mp unstored
    obtain ⟨existing, requested, rfl⟩ :=
      storeParsed_errors (ordinals_nodup_of_parsePublication parsedPage)
        (embedChunks_eq_ok embedded).2 refusal
    exact ⟨_, rfl⟩
  rcases bind_eq_error.mp failed with unflipped | ⟨registry, _, failed⟩
  · obtain ⟨_, _, rfl⟩ := mapError_eq_error.mp unflipped
    exact ⟨_, rfl⟩
  · cases failed

/-- Reading a page raises nothing unexpected exactly when its data is malformed JSON or in shape. -/
theorem parsePublication_onlyIngestionErrors_iff
    (printable : library.Printable) (html baseUrl : String) :
    OnlyIngestionErrors (parsePublication library html baseUrl) ↔
      ∀ raw, extractManualDataJson html = .ok raw →
        library.loads raw = .error .jsonDecodeError ∨
          ∃ data, library.loads raw = .ok data ∧ WellShaped data := by
  -- A page without data is refused by name, and so is malformed JSON.
  unfold parsePublication
  cases extractManualDataJson html with
  | error error => simp [OnlyIngestionErrors, ingestionError]
  | ok raw =>
    dsimp only
    cases loaded : library.loads raw with
    | error exception =>
      cases exception <;> simp [OnlyIngestionErrors, ingestionError, loaded]
    | ok data =>
      simp only [Except.ok.injEq, forall_eq', loaded, reduceCtorEq, false_or, exists_eq_left']
      rw [← publicationOfJson_ok_iff printable data baseUrl]
      cases publicationOfJson library data baseUrl with
      | ok parsed => simp [OnlyIngestionErrors, Except.mapError]
      | error exception => simp [OnlyIngestionErrors, Except.mapError]

/-- An ingestion raises nothing unexpected exactly when the page of the publication is readable. -/
theorem ingestPublication_onlyIngestionErrors_iff
    (printable : pipeline.library.Printable) :
    OnlyIngestionErrors (ingestPublication pipeline pub database) ↔ Readable pipeline pub := by
  unfold ingestPublication Readable
  cases pipeline.fetch pub.sourceUrl with
  | none => simp [OnlyIngestionErrors, ingestionError]
  | some html =>
    simp only [Option.some.injEq, forall_eq']
    rw [← parsePublication_onlyIngestionErrors_iff printable html pub.sourceUrl]
    refine ⟨fun expected failure unread => ?_, ingestFetched_onlyIngestionErrors⟩
    -- What the reading raises is raised by the ingestion.
    exact expected failure (bind_eq_error.mpr (.inl unread))

/-- The pages that fail alone are exactly the readable ones, for one ingestion and for a run. -/
theorem failAlone_iff_readable {pipelines : Pipelines}
    (printable : ∀ pub, (pipelines pub).library.Printable) :
    (∀ pub database, OnlyIngestionErrors (ingestPublication (pipelines pub) pub database) ↔
      Readable (pipelines pub) pub) ∧
    (∀ targets database, FailAlone pipelines targets database 0
        (ingestTargets pipelines (fun _ => noFaults) targets database 0) ↔
      ∀ pub ∈ targets, Readable (pipelines pub) pub) ∧
    ∀ pubIds database targets, selectTargets database.registry pubIds = .ok targets →
      (FailAlone pipelines targets database 0
          (runIngestHtml pipelines (fun _ => noFaults) pubIds database) ↔
        ∀ pub ∈ targets, Readable (pipelines pub) pub) := by
  have alone : ∀ pub database,
      OnlyIngestionErrors (ingestPublication (pipelines pub) pub database) ↔
        Readable (pipelines pub) pub := fun pub _ =>
    ingestPublication_onlyIngestionErrors_iff (printable pub)
  have batch : ∀ targets database, FailAlone pipelines targets database 0
      (ingestTargets pipelines (fun _ => noFaults) targets database 0) ↔
        ∀ pub ∈ targets, Readable (pipelines pub) pub := by
    intro targets database
    constructor
    · intro separate pub member
      -- An unreadable target would end the run with its exception, and the run has a code.
      by_contra unreadable
      obtain ⟨failure, ended⟩ : ∃ failure,
          (ingestTargets pipelines (fun _ => noFaults) targets database 0).ended =
            .error failure :=
        ended_of_unexpected member fun database expected =>
          unreadable ((alone pub database).mp expected)
      cases ended.symm.trans separate.ended
    · -- Readable targets raise only what the command catches.
      intro readable
      exact failAlone_of_onlyIngestionErrors fun pub member database =>
        (alone pub database).mpr (readable pub member)
  refine ⟨alone, batch, fun pubIds database targets selected => ?_⟩
  rw [runIngestHtml, selected]
  exact batch targets database

/-- A publication whose data is null. -/
def nullPublication : RegisteredPublication :=
  registered "3vGvNNpT" "https://docs.sram.com/3vGvNNpT"

/-- Collaborators that find the pages of the two publications. -/
def nullPipelines : Pipelines := fun _ =>
  { order := .textual
    fetch := fun url =>
      some ("<script id=\"manual-data\">" ++
        (if url = nullPublication.sourceUrl then "null" else pikeData) ++ "</script>")
    embedDocuments := fun texts => some (texts.map fun _ => [])
    library :=
      -- One of the pages embeds null in place of an object.
      { numericInterpreter [("null", .null), (pikeData, .obj [("title", .str "Pike"),
          ("modules", .arr [.obj [("title", .str "Top cap")]])])] with
        sha256Hex := id, unescape := id, repr := id } }

/-- The texts of these collaborators. -/
theorem nullPipelines_printable (pub : RegisteredPublication) :
    (nullPipelines pub).library.Printable :=
  (numericInterpreter_asDocumented _).str_total

/-- The equivalences for these collaborators, whose second publication is readable. -/
theorem failAlone_iff_readable_null :
    (∀ pub database, OnlyIngestionErrors (ingestPublication (nullPipelines pub) pub database) ↔
      Readable (nullPipelines pub) pub) ∧
    (∀ targets database, FailAlone nullPipelines targets database 0
        (ingestTargets nullPipelines (fun _ => noFaults) targets database 0) ↔
      ∀ pub ∈ targets, Readable (nullPipelines pub) pub) ∧
    ∀ pubIds database targets, selectTargets database.registry pubIds = .ok targets →
      (FailAlone nullPipelines targets database 0
          (runIngestHtml nullPipelines (fun _ => noFaults) pubIds database) ↔
        ∀ pub ∈ targets, Readable (nullPipelines pub) pub) :=
  -- The table prints every value.
  failAlone_iff_readable nullPipelines_printable

/-- A database in which both publications are registered. -/
def registeredDatabase : Database where
  -- Both publications are new.
  store := .empty
  registry :=
    { rows := [nullPublication, pikePublication]
      pubIds_nodup := by decide }

/-- Data that is null raises an unexpected exception and keeps the next target from its turn. -/
theorem not_failAlone :
    (¬ ∀ (pipeline : HtmlIngestionPipeline) (pub : RegisteredPublication) (database : Database),
      pipeline.library.Printable →
        OnlyIngestionErrors (ingestPublication pipeline pub database)) ∧
    ¬ ∀ (pipelines : Pipelines) (pubIds : List String) (database : Database)
        (targets : List RegisteredPublication), (∀ pub, (pipelines pub).library.Printable) →
      selectTargets database.registry pubIds = .ok targets →
        FailAlone pipelines targets database 0
          (runIngestHtml pipelines (fun _ => noFaults) pubIds database) := by
  constructor
  · intro always
    have expected := always (nullPipelines nullPublication) nullPublication registeredDatabase
      (nullPipelines_printable _)
    -- Null has no fields, and the attribute error passes through the ingestion.
    have unread : parsePublication (nullPipelines nullPublication).library
        "<script id=\"manual-data\">null</script>" nullPublication.sourceUrl =
          .error (.uncaught .attributeError) := by decide +kernel
    have raised : ingestPublication (nullPipelines nullPublication) nullPublication
        registeredDatabase = .error (.uncaught .attributeError) :=
      bind_eq_error.mpr (.inl unread)
    obtain ⟨error, same⟩ := expected _ raised
    cases same
  · intro always
    have separate := always nullPipelines [] registeredDatabase [nullPublication, pikePublication]
      nullPipelines_printable (by decide +kernel)
    exact absurd separate.attempted (by decide +kernel)

end TorqueFinder
