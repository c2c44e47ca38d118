import TorqueFinder.Extraction.ClaudeClient
import TorqueFinder.Lib.Progress
import TorqueFinder.Lib.TaskSum

/-! Concurrent calls of one extractor, which share a semaphore and the health of the upstream. -/

namespace TorqueFinder

open PyText PyJson Transition TaskSum

/-- How an upstream call ends. -/
inductive UpstreamReply where
  | message (response : Message)
  | apiError (error : ApiError)
  /-- Any other exception, a cancellation among them. -/
  | otherError
  deriving DecidableEq

/-- Where a call of the extractor stands between two of its steps. -/
inductive ExtractPhase where
  /-- The call has not started. -/
  | idle
  /-- The request is built, and the semaphore has not been taken yet. -/
  | queued (userBlocks : List UserBlock)
  /-- The semaphore is held during the upstream call. -/
  | calling (userBlocks : List UserBlock)
  /-- The call has ended with an answer or with an error of its own. -/
  | finished (result : Except ExtractionFailure Answer)
  /-- The call has ended with an exception that came in from outside. -/
  | aborted

/-- A step of one call, with what its upstream call brings. -/
inductive ExtractEvent (Task : Type*) where
  | start (task : Task)
  | acquire (task : Task)
  | reply (task : Task) (reply : UpstreamReply)
  /-- An exception is raised in a call where it waits. -/
  | interrupt (task : Task)

/-- The call that takes the step. -/
def ExtractEvent.task {Task : Type*} : ExtractEvent Task → Task
  | .start task | .acquire task | .reply task _ | .interrupt task => task

/-- What the calls of one extractor share, and where each of them stands. -/
structure ExtractState (Task : Type*) where
  /-- How many calls may still take the semaphore. -/
  permits : Nat
  lastUpstreamOk : Bool
  phase : Task → ExtractPhase

/-- One extractor with its calls. -/
structure ExtractTasks (Task : Type*) where
  order : SetOrder
  interpreter : Interpreter
  /-- Whether external calls are stubbed out. -/
  stub : Bool
  query : Task → String
  candidates : Task → List ExtractionCandidate

variable {Task : Type*} [DecidableEq Task]

/-- An extractor before its first call, which counts as healthy. -/
def ExtractState.initial (maxConcurrency : Nat) : ExtractState Task where
  -- The process is healthy until a call fails.
  permits := maxConcurrency
  lastUpstreamOk := true
  phase _ := .idle

/-- One call moves on. -/
def ExtractState.move (state : ExtractState Task) (task : Task) (phase : ExtractPhase) :
    ExtractState Task :=
  -- Only the phase of this call changes.
  { state with phase := Function.update state.phase task phase }

namespace ExtractTasks

variable (tasks : ExtractTasks Task)

/-- Where a call goes before it needs the upstream. -/
def begin (task : Task) : ExtractPhase :=
  match tasks.candidates task with
  -- These results need no call and so no permit.
  | [] => .finished (malformed "extract() requires at least one candidate source")
  | top :: rest =>
    if tasks.stub then .finished (stubAnswer top)
    else
      match buildUserBlocks (tasks.query task) (top :: rest) with
      -- A request that cannot be built fails before the semaphore.
      | .error failure => .finished (.error failure)
      | .ok userBlocks => .queued userBlocks

/-- A call ends with the reply to its request, and releases the semaphore. -/
def receive (state : ExtractState Task) (task : Task) (reply : UpstreamReply) :
    ExtractState Task :=
  let released := { state with permits := state.permits + 1 }
  match reply with
  -- The upstream is up once it has answered, whatever the answer is worth.
  | .message response =>
    { released.move task (.finished (parseResponse tasks.order tasks.interpreter response
        (tasks.candidates task) (tasks.query task))) with lastUpstreamOk := true }
  | .apiError error =>
    { released.move task (.finished (.error (.extraction (classifyUpstreamError error)))) with
      lastUpstreamOk := false }
  | .otherError => released.move task .aborted

/-- The state after one step of a call, when the call can make it. -/
def step (state : ExtractState Task) : ExtractEvent Task → Option (ExtractState Task)
  | .start task =>
    match state.phase task with
    | .idle => some (state.move task (tasks.begin task))
    | _ => none
  -- Without a permit the call stays in the queue.
  | .acquire task =>
    match state.phase task, state.permits with
    | .queued userBlocks, permits + 1 =>
      some { state.move task (.calling userBlocks) with permits }
    | _, _ => none
  | .reply task reply =>
    match state.phase task with
    | .calling _ => some (tasks.receive state task reply)
    | _ => none
  -- A cancellation in flight returns the permit like any other exception.
  | .interrupt task =>
    match state.phase task with
    | .queued _ => some (state.move task .aborted)
    | .calling _ => some (tasks.receive state task .otherError)
    | _ => none

end ExtractTasks

/-- A call that holds the semaphore, which is one whose upstream call is under way. -/
def ExtractPhase.inFlight : ExtractPhase → Bool
  -- Only a call in flight holds a permit.
  | .calling _ => true
  | _ => false

/-- A call that is over. -/
def ExtractPhase.ended : ExtractPhase → Bool
  -- An ended call takes no further step.
  | .finished _ | .aborted => true
  | _ => false

/-- The most steps a call may still make. -/
def ExtractPhase.stepsLeft : ExtractPhase → Nat
  -- A call starts, takes a permit and receives its reply.
  | .idle => 3
  | .queued _ => 2
  | .calling _ => 1
  | .finished _ | .aborted => 0

/-- A call has no steps left exactly when it is over. -/
theorem ExtractPhase.stepsLeft_eq_zero {phase : ExtractPhase} :
    phase.stepsLeft = 0 ↔ phase.ended = true := by
  cases phase <;> simp [stepsLeft, ended]

/-- What one step can do, with what it found before. -/
inductive ExtractTasks.Moves (tasks : ExtractTasks Task) (state : ExtractState Task) :
    ExtractEvent Task → ExtractState Task → Prop where
  | started {task : Task} (idle : state.phase task = .idle) :
    tasks.Moves state (.start task) (state.move task (tasks.begin task))
  | acquired {task : Task} {userBlocks : List UserBlock} {permits : Nat}
    (queued : state.phase task = .queued userBlocks) (free : state.permits = permits + 1) :
    tasks.Moves state (.acquire task) { state.move task (.calling userBlocks) with permits }
  | received {task : Task} {userBlocks : List UserBlock}
    (calls : state.phase task = .calling userBlocks) (reply : UpstreamReply) :
    tasks.Moves state (.reply task reply) (tasks.receive state task reply)
  | left {task : Task} {userBlocks : List UserBlock}
    (queued : state.phase task = .queued userBlocks) :
    tasks.Moves state (.interrupt task) (state.move task .aborted)
  | broken {task : Task} {userBlocks : List UserBlock}
    (calls : state.phase task = .calling userBlocks) :
    tasks.Moves state (.interrupt task) (tasks.receive state task .otherError)

section Steps

variable {tasks : ExtractTasks Task} {state next final : ExtractState Task} {task : Task}
  {event : ExtractEvent Task}

/-- A step does one of these things. -/
theorem ExtractTasks.moves_of_step (moved : tasks.step state event = some next) :
    tasks.Moves state event next := by
  -- A call that is not in the phase its event asks for makes no step.
  cases event with
  | start task =>
    simp only [ExtractTasks.step] at moved
    split at moved
    · rename_i idle
      obtain rfl := Option.some.inj moved
      exact .started idle
    · cases moved
  | acquire task =>
    simp only [ExtractTasks.step] at moved
    split at moved
    · rename_i userBlocks permits queued free
      obtain rfl := Option.some.inj moved
      exact .acquired queued free
    · cases moved
  | reply task reply =>
    simp only [ExtractTasks.step] at moved
    split at moved
    · rename_i userBlocks calls
      obtain rfl := Option.some.inj moved
      exact .received calls reply
    · cases moved
  -- A cancelled call may be waiting or in flight.
  | interrupt task =>
    simp only [ExtractTasks.step] at moved
    split at moved
    · rename_i userBlocks queued
      obtain rfl := Option.some.inj moved
      exact .left queued
    · rename_i userBlocks calls
      obtain rfl := Option.some.inj moved
      exact .broken calls
    · cases moved

/-- A call that receives its reply is over, and gives its permit back. -/
theorem ExtractTasks.receive_spec (tasks : ExtractTasks Task) (state : ExtractState Task)
    (task : Task) (reply : UpstreamReply) :
    ∃ phase : ExtractPhase, phase.ended = true ∧
      (tasks.receive state task reply).phase = Function.update state.phase task phase ∧
      (tasks.receive state task reply).permits = state.permits + 1 := by
  -- Every kind of reply ends the call and returns its permit.
  cases reply with
  | message response => exact ⟨_, rfl, rfl, rfl⟩
  | apiError error => exact ⟨_, rfl, rfl, rfl⟩
  | otherError => exact ⟨_, rfl, rfl, rfl⟩

/-- A call that is over stays where it is. -/
theorem ExtractTasks.phase_eq_of_ended (settled : (state.phase task).ended = true)
    (moved : tasks.step state event = some next) : next.phase task = state.phase task := by
  -- The call that moves is not over, so it is another one.
  have stays : ∀ {other phase}, (state.phase other).ended = false →
      Function.update state.phase other phase task = state.phase task := by
    intro other phase waits
    apply Function.update_of_ne
    rintro rfl
    rw [settled] at waits
    cases waits
  have receives : ∀ {other userBlocks} (reply : UpstreamReply),
      state.phase other = .calling userBlocks →
        (tasks.receive state other reply).phase task = state.phase task := by
    intro other userBlocks reply calls
    obtain ⟨phase, -, moved, -⟩ := tasks.receive_spec state other reply
    rw [moved]
    exact stays (by rw [calls]; rfl)
  cases ExtractTasks.moves_of_step moved with
  | started idle => exact stays (by rw [idle]; rfl)
  | acquired queued free => exact stays (by rw [queued]; rfl)
  | received calls reply => exact receives reply calls
  | left queued => exact stays (by rw [queued]; rfl)
  | broken calls => exact receives .otherError calls

/-- A call has ended, and where it ended. -/
def ExtractState.EndedAt (task : Task) (phase : ExtractPhase) (state : ExtractState Task) : Prop :=
  state.phase task = phase ∧ phase.ended = true

/-- A call that has ended stays where it ended for the rest of a run. -/
theorem ExtractTasks.endedAt_of_run {events : List (ExtractEvent Task)} {phase : ExtractPhase}
    (ended : state.EndedAt task phase) (ran : run tasks.step state events = some final) :
    final.EndedAt task phase := by
  -- No step changes the phase of an ended call, so no run does.
  refine kept_of_run (fun state event next ended moved => ?_) ended ran
  obtain ⟨stands, settled⟩ := ended
  exact ⟨(tasks.phase_eq_of_ended (stands ▸ settled) moved).trans stands, settled⟩

omit [DecidableEq Task] in
/-- A call that begins is over or queued, and does not hold the semaphore. -/
theorem ExtractTasks.begin_spec (tasks : ExtractTasks Task) (task : Task) :
    (tasks.begin task).inFlight = false ∧ (tasks.begin task).stepsLeft ≤ 2 := by
  -- A start leads to an end or to the queue, both without a permit.
  unfold ExtractTasks.begin
  split
  · exact ⟨rfl, Nat.zero_le 2⟩
  · split
    · exact ⟨rfl, Nat.zero_le 2⟩
    · split
      · exact ⟨rfl, Nat.zero_le 2⟩
      · exact ⟨rfl, Nat.le_refl 2⟩

/-- A call that is over holds nothing and has no steps left. -/
theorem ExtractPhase.inFlight_of_ended {phase : ExtractPhase} (settled : phase.ended = true) :
    phase.inFlight = false := by
  cases phase with
  | idle | queued | calling => cases settled
  | finished | aborted => rfl

/-- The call that takes a step has fewer steps left, and no other call moves. -/
theorem ExtractTasks.shorter_of_step (moved : tasks.step state event = some next) :
    ∃ phase : ExtractPhase, phase.stepsLeft < (state.phase event.task).stepsLeft ∧
      next.phase = Function.update state.phase event.task phase := by
  -- Whatever a call that is under way receives, it is over.
  have settled : ∀ {task userBlocks} (reply : UpstreamReply),
      state.phase task = .calling userBlocks →
        ∃ phase : ExtractPhase, phase.stepsLeft < (state.phase task).stepsLeft ∧
          (tasks.receive state task reply).phase = Function.update state.phase task phase := by
    intro task userBlocks reply calls
    obtain ⟨phase, ended, moves, -⟩ := tasks.receive_spec state task reply
    refine ⟨phase, ?_, moves⟩
    rw [calls, ExtractPhase.stepsLeft_eq_zero.mpr ended]
    exact Nat.zero_lt_one
  cases ExtractTasks.moves_of_step moved with
  | @started task idle =>
    refine ⟨tasks.begin task, ?_, rfl⟩
    show _ < (state.phase task).stepsLeft
    rw [idle]
    exact Nat.lt_succ_of_le (tasks.begin_spec task).2
  | @acquired task userBlocks permits queued free =>
    refine ⟨.calling userBlocks, ?_, rfl⟩
    show _ < (state.phase task).stepsLeft
    rw [queued]
    exact Nat.lt_succ_self 1
  | received calls reply => exact settled reply calls
  -- A call that leaves the queue has nothing left.
  | @left task userBlocks queued =>
    refine ⟨.aborted, ?_, rfl⟩
    show _ < (state.phase task).stepsLeft
    rw [queued]
    exact Nat.zero_lt_two
  | broken calls => exact settled .otherError calls

/-- A call takes no more steps than it has left. -/
theorem ExtractTasks.countP_le_stepsLeft {events : List (ExtractEvent Task)}
    (ran : run tasks.step state events = some final) (task : Task) :
    events.countP (fun event => event.task = task) ≤ (state.phase task).stepsLeft := by
  -- A step of the call shortens what it has left.
  exact countP_le_weight (fun _ _ _ moved => tasks.shorter_of_step moved) ran task

variable [Fintype Task]

/-- The permits that are left, and the calls that hold one, make up the semaphore. -/
def ExtractState.Balanced (maxConcurrency : Nat) (state : ExtractState Task) : Prop :=
  state.permits + count ExtractPhase.inFlight state.phase = maxConcurrency

/-- No permit is lost or made by a step. -/
theorem ExtractState.Balanced.step {maxConcurrency : Nat}
    (balanced : state.Balanced maxConcurrency) (moved : tasks.step state event = some next) :
    next.Balanced maxConcurrency := by
  -- A call takes a permit as it goes in flight, and gives it back as it ends.
  have gives : ∀ {task userBlocks} (reply : UpstreamReply),
      state.phase task = .calling userBlocks →
        (tasks.receive state task reply).Balanced maxConcurrency := by
    intro task userBlocks reply calls
    obtain ⟨phase, settled, moved, returned⟩ := tasks.receive_spec state task reply
    unfold Balanced
    rw [moved, returned]
    refine free_add_count balanced ?_
    rw [calls, ExtractPhase.inFlight_of_ended settled]
    rfl
  cases ExtractTasks.moves_of_step moved with
  | @started task idle =>
    refine free_add_count balanced ?_
    rw [idle, (tasks.begin_spec task).1]
    rfl
  | acquired queued free =>
    refine free_add_count balanced ?_
    rw [queued, free]
    rfl
  | received calls reply => exact gives reply calls
  | left queued =>
    refine free_add_count balanced ?_
    rw [queued]
    rfl
  | broken calls => exact gives .otherError calls

/-- The steps that all calls together may still make. -/
def ExtractState.stepsLeft (state : ExtractState Task) : Nat :=
  total ExtractPhase.stepsLeft state.phase

/-- Every step uses up one of the steps that are left. -/
theorem ExtractTasks.stepsLeft_lt (moved : tasks.step state event = some next) :
    next.stepsLeft < state.stepsLeft := by
  -- Only the call that moves has fewer steps left than before.
  obtain ⟨phase, shorter, moves⟩ := tasks.shorter_of_step moved
  unfold ExtractState.stepsLeft
  rw [moves]
  exact total_update_lt shorter

/-- An event without an exception from outside, where each call gets the reply meant for it. -/
def ExtractEvent.Regular (replies : Task → UpstreamReply) : ExtractEvent Task → Prop
  -- Nothing is cancelled and every call gets the reply meant for it.
  | .start _ | .acquire _ => True
  | .reply task brought => brought = replies task
  | .interrupt _ => False

/-- While a call is not over, some call can go on. -/
theorem ExtractTasks.progress {maxConcurrency : Nat} (tasks : ExtractTasks Task)
    (positive : 0 < maxConcurrency) (replies : Task → UpstreamReply)
    (balanced : state.Balanced maxConcurrency) :
    (∀ task, (state.phase task).ended = true) ∨
      ∃ event next, event.Regular replies ∧ tasks.step state event = some next := by
  -- A queued call waits for a permit only while another call is in flight, and that one can end.
  by_cases flying : ∃ task userBlocks, state.phase task = .calling userBlocks
  · obtain ⟨task, userBlocks, calls⟩ := flying
    refine .inr ⟨.reply task (replies task), tasks.receive state task (replies task), rfl, ?_⟩
    simp only [ExtractTasks.step, calls]
  · -- Without a call in flight every permit is free.
    have none : count ExtractPhase.inFlight state.phase = 0 := by
      by_contra some
      obtain ⟨task, calls⟩ := exists_of_count_pos (Nat.pos_of_ne_zero some)
      cases stands : state.phase task with
      | calling userBlocks => exact flying ⟨task, userBlocks, stands⟩
      | idle | queued | finished | aborted =>
        rw [stands] at calls
        cases calls
    obtain ⟨permits, free⟩ : ∃ permits, state.permits = permits + 1 := by
      refine Nat.exists_eq_succ_of_ne_zero ?_
      unfold ExtractState.Balanced at balanced
      omega
    -- So a call that is not over can start or take a permit.
    by_contra stuck
    push Not at stuck
    obtain ⟨⟨task, waits⟩, stuck⟩ := stuck
    cases stands : state.phase task with
    | idle =>
      apply stuck (.start task) (state.move task (tasks.begin task)) trivial
      simp only [ExtractTasks.step, stands]
    | queued userBlocks =>
      apply stuck (.acquire task) { state.move task (.calling userBlocks) with permits } trivial
      simp only [ExtractTasks.step, stands, free]
    | calling userBlocks => exact flying ⟨task, userBlocks, stands⟩
    | finished | aborted =>
      rw [stands] at waits
      exact waits rfl

omit [DecidableEq Task] in
/-- A new extractor has all its permits. -/
theorem ExtractState.Balanced.initial (maxConcurrency : Nat) :
    (ExtractState.initial maxConcurrency : ExtractState Task).Balanced maxConcurrency := by
  -- No call is in flight, so all permits are there.
  have none : count ExtractPhase.inFlight (fun _ : Task => ExtractPhase.idle) = 0 :=
    total_eq_zero.mpr fun _ => rfl
  unfold Balanced
  exact congrArg (maxConcurrency + ·) none

end Steps

/-- No permit is ever lost, every call takes few steps, and the calls of any run can be ended. -/
theorem extraction_capacity [Fintype Task] (tasks : ExtractTasks Task) (maxConcurrency : Nat)
    (events : List (ExtractEvent Task)) (final : ExtractState Task)
    (ran : run tasks.step (.initial maxConcurrency) events = some final) :
    final.permits + count ExtractPhase.inFlight final.phase = maxConcurrency ∧
    (∀ task, events.countP (fun event => event.task = task) ≤ 3) ∧
    (0 < maxConcurrency → ∀ replies : Task → UpstreamReply, ∃ rest settled,
      run tasks.step final rest = some settled ∧ (∀ event ∈ rest, event.Regular replies) ∧
      (∀ task, (settled.phase task).ended = true) ∧ settled.permits = maxConcurrency) := by
  -- The steps left bound each call, and lead the run to its end; what is over holds no permit.
  have balanced : final.Balanced maxConcurrency :=
    kept_of_run (fun _ _ _ holds moved => holds.step moved)
      (ExtractState.Balanced.initial maxConcurrency) ran
  refine ⟨balanced, fun task => tasks.countP_le_stepsLeft ran task, fun positive replies => ?_⟩
  · obtain ⟨rest, settled, ended, regular, holds, all⟩ :=
      exists_run_to_goal (fun _ _ _ moved => tasks.stepsLeft_lt moved)
        (fun _ _ _ holds moved => holds.step moved)
        (fun _ holds => tasks.progress positive replies holds) balanced
    have none : count ExtractPhase.inFlight settled.phase = 0 :=
      total_eq_zero.mpr fun task => by
        rw [ExtractPhase.inFlight_of_ended (all task), Bool.toNat_false]
    unfold ExtractState.Balanced at holds
    exact ⟨rest, settled, ended, regular, all, by omega⟩

/-- Two calls about one section of a manual. -/
def twoExtractions : ExtractTasks Bool where
  -- Both calls ask the same question about the same page.
  order := .textual
  interpreter := tableInterpreter []
  stub := false
  query _ := "What torque do the caliper bolts take?"
  candidates _ := [{ index := 1, sourceType := .html, label := "Calipers", text := some "10 N·m" }]

/-- The upstream call is refused for now. -/
def rateLimited : ApiError where
  -- The server asks to wait for twenty seconds.
  errorClass := .rateLimit
  typeName := "RateLimitError"
  statusCode := some 429
  requestId := none
  retryAfterHeader := some "20"
  message := "Too many requests"

/-- The first call is refused before the second one gets its turn. -/
def twoExtractionEvents : List (ExtractEvent Bool) :=
  [.start false, .start true, .acquire false, .reply false (.apiError rateLimited), .acquire true]

/-- These events are possible one after the other. -/
theorem twoExtractionEvents_run :
    (run twoExtractions.step (.initial 1) twoExtractionEvents).isSome = true := by
  decide +kernel

/-- The one permit is with the second call, and comes back when it is answered. -/
theorem extraction_capacity_twoExtractions :
    ∃ final, run twoExtractions.step (.initial 1) twoExtractionEvents = some final ∧
      final.permits + count ExtractPhase.inFlight final.phase = 1 ∧
      ∃ rest settled, run twoExtractions.step final rest = some settled ∧
        (∀ task, (settled.phase task).ended = true) ∧ settled.permits = 1 := by
  -- The general result applies at the state that the run reaches.
  obtain ⟨final, ran⟩ := Option.isSome_iff_exists.mp twoExtractionEvents_run
  obtain ⟨balanced, -, completes⟩ :=
    extraction_capacity twoExtractions 1 twoExtractionEvents final ran
  obtain ⟨rest, settled, ended, -, all, returned⟩ :=
    completes Nat.zero_lt_one fun _ => .message ⟨none, []⟩
  exact ⟨final, ran, balanced, rest, settled, ended, all, returned⟩

/-- What an event brings a call from the upstream, when the upstream is what it comes from. -/
def ExtractEvent.brings (task : Task) : ExtractEvent Task → Option (Except ApiError Message)
  -- Only a reply to the call itself brings it anything.
  | .reply other (.message response) => if other = task then some (.ok response) else none
  | .reply other (.apiError error) => if other = task then some (.error error) else none
  | _ => none

/-- Everything the upstream has brought a call. -/
def broughtTo (task : Task) (events : List (ExtractEvent Task)) : List (Except ApiError Message) :=
  events.filterMap (ExtractEvent.brings task)

/-- A call on its own, of an extractor whose upstream brings what is given. -/
def ExtractTasks.sequential (tasks : ExtractTasks Task) (task : Task)
    (brought : Except ApiError Message) : Except ExtractionFailure Answer :=
  -- The same extraction alone, with the reply that the call received.
  Extractor.extract
    { order := tasks.order, interpreter := tasks.interpreter, stub := tasks.stub,
      create := fun _ => brought }
    (tasks.query task) (tasks.candidates task)

/-- How a call has come to stand where it stands. -/
def ExtractTasks.PhaseOk (tasks : ExtractTasks Task) (task : Task)
    (brought : List (Except ApiError Message)) : ExtractPhase → Prop
  -- What a phase tells about the replies that the call has received so far.
  | .idle | .aborted => brought = []
  | .queued userBlocks | .calling userBlocks =>
    brought = [] ∧ tasks.candidates task ≠ [] ∧ tasks.stub = false ∧
      buildUserBlocks (tasks.query task) (tasks.candidates task) = .ok userBlocks
  | .finished result =>
    (brought = [] ∧ ∀ reply, result = tasks.sequential task reply) ∨
      ∃ reply, brought = [reply] ∧ result = tasks.sequential task reply

section Results

variable {tasks : ExtractTasks Task} {state next final : ExtractState Task} {task : Task}
  {event : ExtractEvent Task} {events past : List (ExtractEvent Task)}

omit [DecidableEq Task] in
/-- A call that begins has been brought nothing. -/
theorem ExtractTasks.phaseOk_begin (tasks : ExtractTasks Task) (task : Task) :
    tasks.PhaseOk task [] (tasks.begin task) := by
  -- What is over without a request does not depend on what the upstream would bring.
  unfold ExtractTasks.begin
  split
  · rename_i none
    refine .inl ⟨rfl, fun reply => ?_⟩
    rw [ExtractTasks.sequential, none, Extractor.extract]
  · rename_i top rest some
    split
    · rename_i stubbed
      refine .inl ⟨rfl, fun reply => ?_⟩
      rw [ExtractTasks.sequential, some, Extractor.extract, if_pos stubbed]
    · rename_i real
      split
      · rename_i failure failed
        refine .inl ⟨rfl, fun reply => ?_⟩
        rw [ExtractTasks.sequential, some, Extractor.extract, if_neg real, failed]
        rfl
      · rename_i userBlocks built
        refine ⟨rfl, ?_, Bool.eq_false_iff.mpr real, ?_⟩
        · rw [some]
          exact List.cons_ne_nil top rest
        · rw [some]
          exact built

omit [DecidableEq Task] in
/-- A call whose request is built ends as it would on its own. -/
theorem ExtractTasks.sequential_of_built {userBlocks : List UserBlock}
    (present : tasks.candidates task ≠ []) (real : tasks.stub = false)
    (built : buildUserBlocks (tasks.query task) (tasks.candidates task) = .ok userBlocks)
    (brought : Except ApiError Message) :
    tasks.sequential task brought =
      match brought with
      | .error error => .error (.extraction (classifyUpstreamError error))
      | .ok response => parseResponse tasks.order tasks.interpreter response
          (tasks.candidates task) (tasks.query task) := by
  -- The sequential extraction builds the same blocks and then reads the reply.
  obtain ⟨top, rest, some⟩ := List.exists_cons_of_ne_nil present
  have request : ¬tasks.stub = true := Bool.eq_false_iff.mp real
  rw [some] at built
  rw [ExtractTasks.sequential, some, Extractor.extract, if_neg request, built]
  rfl

/-- One more event brings a call what the event brings it. -/
theorem broughtTo_concat (task : Task) (past : List (ExtractEvent Task))
    (event : ExtractEvent Task) :
    broughtTo task (past ++ [event]) = broughtTo task past ++ (event.brings task).toList := by
  -- The last event brings one reply or none.
  unfold broughtTo
  rw [List.filterMap_append]
  cases brought : event.brings task with
  | none => rw [List.filterMap_cons_none brought]; rfl
  | some reply => rw [List.filterMap_cons_some brought]; rfl

/-- An event concerns no call but its own. -/
theorem ExtractTasks.phases_move {phase : ExtractPhase}
    (known : ∀ other, tasks.PhaseOk other (broughtTo other past) (state.phase other))
    (silent : ∀ other ≠ task, event.brings other = none)
    (ok : tasks.PhaseOk task (broughtTo task past ++ (event.brings task).toList) phase)
    (other : Task) :
    tasks.PhaseOk other (broughtTo other (past ++ [event]))
      (Function.update state.phase task phase other) := by
  rw [broughtTo_concat]
  -- The call itself is in its new phase, and the others have received nothing.
  by_cases same : other = task
  · subst same
    rwa [Function.update_self]
  · rw [Function.update_of_ne same, silent other same, Option.toList_none, List.append_nil]
    exact known other

/-- Every call stands where the events so far have brought it. -/
def ExtractTasks.PhasesOk (tasks : ExtractTasks Task) (past : List (ExtractEvent Task))
    (state : ExtractState Task) : Prop :=
  ∀ task, tasks.PhaseOk task (broughtTo task past) (state.phase task)

/-- Every step keeps the calls where the events have brought them. -/
theorem ExtractTasks.PhasesOk.step (known : tasks.PhasesOk past state)
    (moved : tasks.step state event = some next) : tasks.PhasesOk (past ++ [event]) next := by
  -- Only a reply brings its call something, and it ends the call as it would end on its own.
  have standing : ∀ {task phase}, state.phase task = phase →
      tasks.PhaseOk task (broughtTo task past) phase := by
    intro task phase stands
    exact stands ▸ known task
  cases ExtractTasks.moves_of_step moved with
  | @started task idle =>
    have nothing : broughtTo task past = [] := standing idle
    refine ExtractTasks.phases_move known (fun _ _ => rfl) ?_
    rw [nothing]
    exact tasks.phaseOk_begin task
  | @acquired task userBlocks permits queued free =>
    refine ExtractTasks.phases_move known (fun _ _ => rfl) ?_
    have held := standing queued
    show tasks.PhaseOk task (broughtTo task past ++ []) _
    rw [List.append_nil]
    exact held
  -- The reply is the first that the call gets.
  | @received task userBlocks calls reply =>
    obtain ⟨nothing, present, real, built⟩ := standing calls
    have ends := ExtractTasks.sequential_of_built present real built
    cases reply with
    | message response =>
      refine ExtractTasks.phases_move known (fun other different => ?_) ?_
      · exact if_neg (Ne.symm different)
      · rw [nothing, ExtractEvent.brings, if_pos rfl]
        exact .inr ⟨.ok response, rfl, (ends (.ok response)).symm⟩
    | apiError error =>
      refine ExtractTasks.phases_move known (fun other different => ?_) ?_
      · exact if_neg (Ne.symm different)
      · rw [nothing, ExtractEvent.brings, if_pos rfl]
        exact .inr ⟨.error error, rfl, (ends (.error error)).symm⟩
    -- An exception that is no error of the client brings nothing.
    | otherError =>
      refine ExtractTasks.phases_move known (fun _ _ => rfl) ?_
      rw [nothing]
      rfl
  | @left task userBlocks queued =>
    refine ExtractTasks.phases_move known (fun _ _ => rfl) ?_
    rw [(standing queued).1]
    rfl
  | @broken task userBlocks calls =>
    refine ExtractTasks.phases_move known (fun _ _ => rfl) ?_
    rw [(standing calls).1]
    rfl

/-- In every run the calls stand where the events have brought them. -/
theorem ExtractTasks.phasesOk_of_run {maxConcurrency : Nat}
    (ran : run tasks.step (.initial maxConcurrency) events = some final) :
    tasks.PhasesOk events final := by
  -- The invariant holds at the start and is kept by every step.
  have begun : tasks.PhasesOk [] (.initial maxConcurrency) := fun _ => rfl
  exact explained_of_run (fun _ _ _ _ known moved => known.step moved) begun ran

end Results

/-- However the calls interleave, each ends as it would end on its own with the reply it got. -/
theorem extraction_isolated (tasks : ExtractTasks Task) (maxConcurrency : Nat)
    (events : List (ExtractEvent Task)) (final : ExtractState Task)
    (ran : run tasks.step (.initial maxConcurrency) events = some final) (task : Task)
    (result : Except ExtractionFailure Answer) (ended : final.phase task = .finished result) :
    (broughtTo task events = [] ∧ ∀ reply, result = tasks.sequential task reply) ∨
      ∃ reply, broughtTo task events = [reply] ∧ result = tasks.sequential task reply := by
  -- The invariant, read at a finished call.
  have known := ExtractTasks.phasesOk_of_run ran task
  rwa [ended] at known

/-- The first call has got its error, and ends as it would without the second one. -/
theorem extraction_isolated_twoExtractions :
    ∃ final result, run twoExtractions.step (.initial 1) twoExtractionEvents = some final ∧
      final.phase false = .finished result ∧
      ∃ reply, broughtTo false twoExtractionEvents = [reply] ∧
        result = twoExtractions.sequential false reply := by
  obtain ⟨final, ran⟩ := Option.isSome_iff_exists.mp twoExtractionEvents_run
  -- The run itself is evaluated, but not the answer that it reaches.
  have ended : ∃ result, final.phase false = .finished result := by
    have seen : (run twoExtractions.step (.initial 1) twoExtractionEvents).map (fun final =>
        match final.phase false with
        | .finished _ => true
        | _ => false) = some true := by
      decide +kernel
    rw [ran, Option.map_some, Option.some.injEq] at seen
    split at seen
    · rename_i result stands
      exact ⟨result, stands⟩
    · cases seen
  obtain ⟨result, ended⟩ := ended
  refine ⟨final, result, ran, ended, ?_⟩
  -- The first call has received a reply, so it cannot have ended without one.
  rcases extraction_isolated twoExtractions 1 twoExtractionEvents final ran false result ended with
    ⟨nothing, -⟩ | brought
  · cases nothing
  · exact brought

end TorqueFinder
