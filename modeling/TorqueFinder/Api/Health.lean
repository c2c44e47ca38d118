import TorqueFinder.Extraction.ConcurrentExtraction

/-! The probes of the service, and what readiness says after any run of the extractor. -/

namespace TorqueFinder

open Transition

/-- The version of the service. -/
def serviceVersion : String := "0.1.0"

/-- The answer of the liveness probe. -/
structure HealthResponse where
  status : String
  version : String
  deriving DecidableEq

/-- The answer of the readiness probe. -/
structure ReadinessResponse where
  ready : Bool
  extractionUpstreamHealthy : Bool
  version : String
  deriving DecidableEq

/-- GET /healthz, which looks at nothing. -/
def healthz : HealthResponse := ⟨"ok", serviceVersion⟩

/-- Whether the last upstream call that counts has succeeded. -/
def ExtractState.upstreamHealthy {Task : Type*} (state : ExtractState Task) : Bool :=
  state.lastUpstreamOk

/-- GET /readyz: the status and the body. -/
def readyz {Task : Type*} (extractor : ExtractState Task) : Nat × ReadinessResponse :=
  let healthy := extractor.upstreamHealthy
  let body : ReadinessResponse := ⟨healthy, healthy, serviceVersion⟩
  -- The body is sent with either status.
  (if healthy then 200 else 503, body)

/-- What an event says about the upstream, if anything. -/
def ExtractEvent.verdict {Task : Type*} : ExtractEvent Task → Option Bool
  | .reply _ (.message _) => some true
  -- An exception that is no API error leaves the flag as it was.
  | .reply _ (.apiError _) => some false
  | _ => none

section Verdicts

variable {Task : Type*} {event : ExtractEvent Task} {events past : List (ExtractEvent Task)}

/-- What the events say about the upstream, the oldest first. -/
def upstreamVerdicts (events : List (ExtractEvent Task)) : List Bool :=
  events.filterMap ExtractEvent.verdict

/-- An event that says nothing leaves the verdicts as they are. -/
theorem upstreamVerdicts_silent (silent : event.verdict = none) :
    upstreamVerdicts (past ++ [event]) = upstreamVerdicts past := by
  -- An event without a verdict is filtered out.
  rw [upstreamVerdicts, List.filterMap_append, List.filterMap_cons_none silent,
    List.filterMap_nil, List.append_nil]
  rfl

/-- An event that says something says the latest. -/
theorem upstreamVerdicts_spoken {verdict : Bool} (spoken : event.verdict = some verdict) :
    upstreamVerdicts (past ++ [event]) = upstreamVerdicts past ++ [verdict] := by
  -- The verdict of the last event comes last.
  rw [upstreamVerdicts, List.filterMap_append, List.filterMap_cons_some spoken, List.filterMap_nil]
  rfl

/-- The latest verdict is bad when an API error has come and nothing that counts behind it. -/
theorem latest_verdict_false :
    (upstreamVerdicts events).getLast?.getD true = false ↔
      ∃ front task error rest, events = front ++ .reply task (.apiError error) :: rest ∧
        ∀ event ∈ rest, event.verdict = none := by
  constructor
  · intro bad
    -- Without any verdict the flag would still be good.
    have last : (upstreamVerdicts events).getLast? = some false := by
      cases found : (upstreamVerdicts events).getLast? with
      | none =>
        rw [found] at bad
        cases bad
      | some verdict =>
        rw [found] at bad
        exact congrArg some bad
    -- The last verdict comes from one event, and those behind it have none.
    obtain ⟨earlier, split⟩ := List.getLast?_eq_some_iff.mp last
    obtain ⟨before, behind, rfl, -, ends⟩ := List.filterMap_eq_append_iff.mp split
    obtain ⟨between, event, rest, rfl, -, spoken, silent⟩ := List.filterMap_eq_cons_iff.mp ends
    have quiet : ∀ event ∈ rest, event.verdict = none := List.filterMap_eq_nil_iff.mp silent
    cases event with
    | reply task reply =>
      cases reply with
      | apiError error =>
        exact ⟨before ++ between, task, error, rest, (List.append_assoc _ _ _).symm, quiet⟩
      | message | otherError => cases spoken
    | start | acquire | interrupt => cases spoken
  · rintro ⟨front, task, error, rest, rfl, quiet⟩
    have silent : rest.filterMap ExtractEvent.verdict = [] := List.filterMap_eq_nil_iff.mpr quiet
    -- The events behind the failure say nothing.
    have verdicts : upstreamVerdicts (front ++ .reply task (.apiError error) :: rest) =
        upstreamVerdicts front ++ [false] := by
      rw [upstreamVerdicts, List.filterMap_append,
        List.filterMap_cons_some (f := ExtractEvent.verdict) (b := false) rfl, silent]
      rfl
    rw [verdicts, List.getLast?_concat]
    rfl

end Verdicts

variable {Task : Type*} [DecidableEq Task] {tasks : ExtractTasks Task}
  {state next final : ExtractState Task} {task : Task} {event : ExtractEvent Task}
  {events past : List (ExtractEvent Task)}

/-- The flag is the latest verdict, and a stub gets none. -/
structure ExtractTasks.HealthOk (tasks : ExtractTasks Task) (past : List (ExtractEvent Task))
    (state : ExtractState Task) : Prop where
  phases : tasks.PhasesOk past state
  latest : state.lastUpstreamOk = (upstreamVerdicts past).getLast?.getD true
  stubbed : tasks.stub = true → upstreamVerdicts past = []

/-- Every step keeps the flag at the latest verdict. -/
theorem ExtractTasks.HealthOk.step (holds : tasks.HealthOk past state)
    (moved : tasks.step state event = some next) : tasks.HealthOk (past ++ [event]) next := by
  -- A reply comes to a call in flight, and a stub has none.
  have phases := holds.phases.step moved
  -- An event without a verdict leaves the flag.
  have quiet : event.verdict = none → next.lastUpstreamOk = state.lastUpstreamOk →
      tasks.HealthOk (past ++ [event]) next := by
    intro silent same
    refine ⟨phases, ?_, ?_⟩
    · rw [upstreamVerdicts_silent silent, same]
      exact holds.latest
    · rw [upstreamVerdicts_silent silent]
      exact holds.stubbed
  -- An event with a verdict sets the flag to it.
  have loud : ∀ {verdict}, tasks.stub = false → event.verdict = some verdict →
      next.lastUpstreamOk = verdict → tasks.HealthOk (past ++ [event]) next := by
    intro verdict real spoken same
    refine ⟨phases, ?_, fun stubbed => ?_⟩
    · rw [upstreamVerdicts_spoken spoken, List.getLast?_concat, same]
      rfl
    · rw [real] at stubbed
      cases stubbed
  cases ExtractTasks.moves_of_step moved with
  | started idle => exact quiet rfl rfl
  | acquired queued free => exact quiet rfl rfl
  | @received task userBlocks calls reply =>
    have known := holds.phases task
    rw [calls] at known
    cases reply with
    | message response => exact loud known.2.2.1 rfl rfl
    | apiError error => exact loud known.2.2.1 rfl rfl
    | otherError => exact quiet rfl rfl
  | left queued => exact quiet rfl rfl
  | broken calls => exact quiet rfl rfl

/-- In every run the flag is the latest verdict. -/
theorem ExtractTasks.healthOk_of_run {maxConcurrency : Nat}
    (ran : run tasks.step (.initial maxConcurrency) events = some final) :
    tasks.HealthOk events final := by
  -- The flag is set at the start, and each step explains what it does to it.
  have begun : tasks.HealthOk [] (.initial maxConcurrency) := ⟨fun _ => rfl, rfl, fun _ => rfl⟩
  exact explained_of_run (fun _ _ _ _ holds moved => holds.step moved) begun ran

/-- A call that has got an API error ends with the domain error it is mapped to. -/
theorem ExtractTasks.finished_of_apiError {maxConcurrency : Nat} {error : ApiError}
    {front rest : List (ExtractEvent Task)}
    (ran : run tasks.step (.initial maxConcurrency)
      (front ++ .reply task (.apiError error) :: rest) = some final) :
    final.phase task = .finished (.error (.extraction (classifyUpstreamError error))) := by
  -- The call was in flight when the error came, and it has not moved since.
  obtain ⟨middle, -, ran⟩ := exists_of_run_append ran
  obtain ⟨next, moved, ran⟩ := Option.bind_eq_some_iff.mp ran
  cases ExtractTasks.moves_of_step moved with
  | received calls reply =>
    exact (tasks.endedAt_of_run ⟨Function.update_self _ _ _, rfl⟩ ran).1

/-- Some upstream call has ended with an API error, and none that counts has ended since. -/
def UpstreamDown {Task : Type*} (events : List (ExtractEvent Task)) (task : Task)
    (error : ApiError) : Prop :=
  -- Nothing after the error has set the flag again.
  ∃ front rest, events = front ++ .reply task (.apiError error) :: rest ∧
    ∀ event ∈ rest, event.verdict = none

/-- After any run the probe fails exactly when the last upstream call that counts has failed. -/
theorem readyz_after_run (tasks : ExtractTasks Task) (maxConcurrency : Nat)
    (events : List (ExtractEvent Task)) (final : ExtractState Task)
    (ran : run tasks.step (.initial maxConcurrency) events = some final) :
    (readyz final = (503, ⟨false, false, serviceVersion⟩) ↔
      ∃ task error, UpstreamDown events task error) ∧
    (readyz final = (200, ⟨true, true, serviceVersion⟩) ↔
      ¬∃ task error, UpstreamDown events task error) ∧
    (∀ task error, UpstreamDown events task error →
      final.phase task = .finished (.error (.extraction (classifyUpstreamError error)))) ∧
    (tasks.stub = true → readyz final = (200, ⟨true, true, serviceVersion⟩)) := by
  -- The flag is the latest verdict, and both answers are read off the flag.
  have holds := ExtractTasks.healthOk_of_run ran
  -- The last verdict is bad when an error has come and nothing good behind it.
  have down : final.lastUpstreamOk = false ↔ ∃ task error, UpstreamDown events task error := by
    rw [holds.latest, latest_verdict_false]
    constructor
    · rintro ⟨front, task, error, rest, split, quiet⟩
      exact ⟨task, error, front, rest, split, quiet⟩
    · rintro ⟨task, error, front, rest, split, quiet⟩
      exact ⟨front, task, error, rest, split, quiet⟩
  have failed : ∀ task error, UpstreamDown events task error →
      final.phase task = .finished (.error (.extraction (classifyUpstreamError error))) := by
    rintro task error ⟨front, rest, rfl, -⟩
    exact ExtractTasks.finished_of_apiError ran
  -- A stub makes no call, so no verdict is ever given.
  have stubbed : tasks.stub = true → final.lastUpstreamOk = true := by
    intro stubbed
    rw [holds.latest, holds.stubbed stubbed]
    rfl
  rw [← down]
  unfold readyz ExtractState.upstreamHealthy
  cases flag : final.lastUpstreamOk with
  | true => exact ⟨by simp, by simp, failed, fun _ => rfl⟩
  | false =>
    refine ⟨by simp, by simp, failed, fun stub => ?_⟩
    rw [stubbed stub] at flag
    cases flag

/-- The rate limit of the first call is what the probe shows while the second one is in flight. -/
theorem readyz_after_run_twoExtractions :
    ∃ final, run twoExtractions.step (.initial 1) twoExtractionEvents = some final ∧
      readyz final = (503, ⟨false, false, serviceVersion⟩) ∧
      final.phase false = .finished (.error (.extraction (classifyUpstreamError rateLimited))) := by
  -- The first call is refused by the upstream while the second one waits.
  obtain ⟨final, ran⟩ := Option.isSome_iff_exists.mp twoExtractionEvents_run
  obtain ⟨shown, -, failed, -⟩ := readyz_after_run twoExtractions 1 twoExtractionEvents final ran
  have down : UpstreamDown twoExtractionEvents false rateLimited :=
    ⟨[.start false, .start true, .acquire false], [.acquire true], rfl,
      by simp [ExtractEvent.verdict]⟩
  exact ⟨final, ran, shown.mpr ⟨false, rateLimited, down⟩, failed false rateLimited down⟩

end TorqueFinder
