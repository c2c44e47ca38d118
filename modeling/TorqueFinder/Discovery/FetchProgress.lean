import TorqueFinder.Discovery.RobotsDiscipline
import TorqueFinder.Lib.Progress
import TorqueFinder.Lib.TaskSum

/-! The lock and the semaphore of a fetcher: neither is lost, and no call waits for ever. -/

namespace TorqueFinder

open Transition TaskSum

/-- A step of one call, or an exception that is raised in a call where it waits. -/
inductive InterruptibleEvent (Task : Type*) where
  | call (event : FetchEvent Task)
  /-- A cancellation, or any exception of the HTTP client that no handler names. -/
  | interrupt (task : Task)

/-- The call that takes the step. -/
def FetchEvent.task {Task : Type*} : FetchEvent Task → Task
  | .start task | .enterLock task | .robotsReply task _ | .decide task | .acquire task
  | .send task | .pageReply task _ => task

/-- The call that takes the step, or that the exception is raised in. -/
def InterruptibleEvent.task {Task : Type*} : InterruptibleEvent Task → Task
  | .call event => event.task
  | .interrupt task => task

/-- A call that holds the semaphore. -/
def CallPhase.holdsPermit {Rules : Type*} : CallPhase Rules → Bool
  -- The permit is held from the pause in front of the request until the reply.
  | .sleeping | .requesting => true
  | _ => false

/-- A call that holds the lock. -/
def CallPhase.holdsLock {Rules : Type*} : CallPhase Rules → Bool
  -- Only the call that fetches the rules stays inside the lock.
  | .fetchingRobots _ => true
  | _ => false

/-- A call that waits for the lock or the semaphore. -/
def CallPhase.waits {Rules : Type*} : CallPhase Rules → Bool
  -- These phases end when the lock or a permit becomes free.
  | .seeking _ | .queued => true
  | _ => false

/-- A call that is over. -/
def CallPhase.ended {Rules : Type*} : CallPhase Rules → Bool
  | .answered _ | .finished _ => true
  | _ => false

/-- The most steps a call may still make. -/
def CallPhase.stepsLeft {Rules : Type*} : CallPhase Rules → Nat
  -- The longest way leads through the rules, the lock and the permit.
  | .idle => 7
  | .seeking _ => 6
  | .fetchingRobots _ => 5
  | .deciding _ => 4
  | .queued => 3
  | .sleeping => 2
  | .requesting => 1
  | .answered _ | .finished _ => 0

/-- A call that holds the lock or the semaphore is not over, and waits for neither. -/
theorem CallPhase.free_of_holds {Rules : Type*} {phase : CallPhase Rules}
    (held : phase.holdsLock = true ∨ phase.holdsPermit = true) :
    phase.ended = false ∧ phase.waits = false := by
  -- Whoever holds something neither waits nor has ended.
  cases phase with
  | fetchingRobots | sleeping | requesting => exact ⟨rfl, rfl⟩
  | idle | seeking | deciding | queued | answered | finished =>
    rcases held with held | held <;> cases held

variable {Task Rules : Type*} [DecidableEq Task]

/-- The state after an exception is raised in a call, which releases what the call holds. -/
def FetchState.interrupt (state : FetchState Task Rules) (task : Task) :
    Option (FetchState Task Rules) :=
  let ended := state.move task (.finished (.error .otherError))
  match state.phase task with
  | .seeking _ | .queued => some ended
  -- No rules are kept for the site, so the next call asks for them again.
  | .fetchingRobots _ => some { ended with lockHolder := none }
  | .sleeping | .requesting => some { ended with permits := state.permits + 1 }
  | .idle | .deciding _ | .answered _ | .finished _ => none

/-- The state after a step of a call or an exception in it. -/
def FetchTasks.stepOrInterrupt (tasks : FetchTasks Task Rules) (state : FetchState Task Rules) :
    InterruptibleEvent Task → Option (FetchState Task Rules)
  | .call event => tasks.step state event
  -- A failure or a cancellation may end a call at any await.
  | .interrupt task => state.interrupt task

/-- One call has gone from where it stood to another phase, with what it took and gave back. -/
structure FetchState.Passes (state next : FetchState Task Rules) (task : Task)
    (phase : CallPhase Rules) : Prop where
  moved : next.phase = Function.update state.phase task phase
  shorter : phase.stepsLeft < (state.phase task).stepsLeft
  traded : next.permits + phase.holdsPermit.toNat =
    state.permits + (state.phase task).holdsPermit.toNat
  /-- The lock is only taken when it is free. -/
  locked : phase.holdsLock = true → state.lockHolder = none ∧ next.lockHolder = some task
  /-- A call that held the lock gives it back. -/
  unlocked : phase.holdsLock = false →
    next.lockHolder = if (state.phase task).holdsLock then none else state.lockHolder

section Steps

variable {tasks : FetchTasks Task Rules} {state next final : FetchState Task Rules} {task : Task}
  {event : InterruptibleEvent Task}

/-- A call that holds nothing may move on to where it holds nothing either. -/
theorem FetchState.passes_move {phase : CallPhase Rules}
    (shorter : phase.stepsLeft < (state.phase task).stepsLeft)
    (before : (state.phase task).holdsPermit = false ∧ (state.phase task).holdsLock = false)
    (after : phase.holdsPermit = false ∧ phase.holdsLock = false) :
    state.Passes (state.move task phase) task phase where
  -- Nothing is taken and nothing is given back.
  moved := rfl
  shorter := shorter
  traded := by rw [before.1, after.1]; rfl
  locked := by rw [after.2]; exact nofun
  unlocked _ := by rw [before.2]; rfl

omit [DecidableEq Task] in
/-- A call that misses the cache holds nothing yet. -/
theorem FetchTasks.beginLive_spec (tasks : FetchTasks Task Rules) (state : FetchState Task Rules)
    (task : Task) :
    (tasks.beginLive state task).stepsLeft < 7 ∧
      (tasks.beginLive state task).holdsPermit = false ∧
      (tasks.beginLive state task).holdsLock = false := by
  -- The call goes on to the permit, to its end, to its decision or to the lock.
  unfold FetchTasks.beginLive
  split
  · exact ⟨show 3 < 7 by omega, rfl, rfl⟩
  · split
    · exact ⟨show 0 < 7 by omega, rfl, rfl⟩
    · split
      · exact ⟨show 4 < 7 by omega, rfl, rfl⟩
      · exact ⟨show 6 < 7 by omega, rfl, rfl⟩

omit [DecidableEq Task] in
/-- A call that has read the rules holds nothing. -/
theorem FetchTasks.decision_spec (tasks : FetchTasks Task Rules) (rules : Rules) (task : Task) :
    (tasks.decision rules task).stepsLeft < 4 ∧
      (tasks.decision rules task).holdsPermit = false ∧
      (tasks.decision rules task).holdsLock = false := by
  -- The rules end the call, or let it queue for a permit.
  unfold FetchTasks.decision
  split
  · exact ⟨show 0 < 4 by omega, rfl, rfl⟩
  · exact ⟨show 0 < 4 by omega, rfl, rfl⟩
  · exact ⟨show 3 < 4 by omega, rfl, rfl⟩

/-- A call that gets its page is over, and has given the semaphore back. -/
theorem FetchTasks.passes_receive (waits : state.phase task = .requesting) (reply : PageReply) :
    ∃ phase, state.Passes (tasks.receive state task reply) task phase := by
  -- The three replies differ in the result alone.
  have ends : ∀ {next : FetchState Task Rules} {result : Except CallFailure String},
      next.phase = Function.update state.phase task (.finished result) →
        next.permits = state.permits + 1 → next.lockHolder = state.lockHolder →
          ∃ phase, state.Passes next task phase := by
    intro next result moved returned same
    refine ⟨.finished result, moved, ?_, ?_, nofun, fun _ => ?_⟩
    · rw [waits]
      exact Nat.zero_lt_one
    · rw [waits, returned]
      rfl
    · rw [waits, same]
      rfl
  cases reply with
  | body text => exact ends rfl rfl rfl
  | httpError cause => exact ends rfl rfl rfl
  | otherError => exact ends rfl rfl rfl

/-- A call that enters the lock finds the rules there, or takes the lock to ask for them. -/
theorem FetchTasks.passes_enterLock {origin : String} (seeks : state.phase task = .seeking origin)
    (entered : FetchTasks.enterLock state task origin = some next) :
    ∃ phase, state.Passes next task phase := by
  -- The rules are there, or the call becomes the one that fetches them.
  unfold FetchTasks.enterLock at entered
  split at entered
  · cases entered
  · rename_i free
    split at entered
    · rename_i rules held
      obtain rfl := Option.some.inj entered
      refine ⟨_, FetchState.passes_move ?_ (by rw [seeks]; exact ⟨rfl, rfl⟩) ⟨rfl, rfl⟩⟩
      rw [seeks]
      exact show 4 < 6 by omega
    · obtain rfl := Option.some.inj entered
      refine ⟨.fetchingRobots origin, rfl, ?_, ?_, fun _ => ⟨free, rfl⟩, nofun⟩
      · rw [seeks]
        exact Nat.lt_succ_self 5
      · rw [seeks]
        rfl

/-- Every step of a call is a passage. -/
theorem FetchTasks.passes_of_step {event : FetchEvent Task}
    (moved : tasks.step state event = some next) :
    ∃ phase, state.Passes next event.task phase := by
  -- A call that is not in the phase its event asks for makes no step.
  cases event with
  | start task =>
    show ∃ phase, state.Passes next task phase
    simp only [FetchTasks.step] at moved
    split at moved
    · rename_i idle
      have nothing : (state.phase task).holdsPermit = false ∧
          (state.phase task).holdsLock = false := by
        rw [idle]
        exact ⟨rfl, rfl⟩
      split at moved
      · obtain rfl := Option.some.inj moved
        refine ⟨_, FetchState.passes_move ?_ nothing ⟨rfl, rfl⟩⟩
        rw [idle]
        exact show 0 < 7 by omega
      · obtain rfl := Option.some.inj moved
        obtain ⟨shorter, begun⟩ := tasks.beginLive_spec state task
        exact ⟨_, FetchState.passes_move (idle ▸ shorter) nothing begun⟩
    · cases moved
  -- The lock is taken, or the rules are already there.
  | enterLock task =>
    show ∃ phase, state.Passes next task phase
    simp only [FetchTasks.step] at moved
    split at moved
    · rename_i origin seeks
      exact FetchTasks.passes_enterLock seeks moved
    · cases moved
  -- The lock is given back, and the rules are decided on.
  | robotsReply task reply =>
    show ∃ phase, state.Passes next task phase
    simp only [FetchTasks.step] at moved
    split at moved
    · rename_i origin waits
      obtain rfl := Option.some.inj moved
      refine ⟨_, rfl, ?_, ?_, fun held => absurd held Bool.false_ne_true, fun _ => ?_⟩
      · rw [waits]
        exact Nat.lt_succ_self 4
      · rw [waits]
        rfl
      · rw [waits]
        rfl
    · cases moved
  | decide task =>
    show ∃ phase, state.Passes next task phase
    simp only [FetchTasks.step] at moved
    split at moved
    · rename_i rules known
      obtain rfl := Option.some.inj moved
      obtain ⟨shorter, decided⟩ := tasks.decision_spec rules task
      refine ⟨_, FetchState.passes_move (known ▸ shorter) ?_ decided⟩
      rw [known]
      exact ⟨rfl, rfl⟩
    · cases moved
  -- A permit is taken from those that are free.
  | acquire task =>
    show ∃ phase, state.Passes next task phase
    simp only [FetchTasks.step] at moved
    split at moved
    · rename_i permits queued free
      obtain rfl := Option.some.inj moved
      refine ⟨.sleeping, rfl, ?_, ?_, fun held => absurd held Bool.false_ne_true, fun _ => ?_⟩
      · rw [queued]
        exact Nat.lt_succ_self 2
      · rw [queued, free]
        rfl
      · rw [queued]
        rfl
    · cases moved
  | send task =>
    show ∃ phase, state.Passes next task phase
    simp only [FetchTasks.step] at moved
    split at moved
    · rename_i sleeping
      obtain rfl := Option.some.inj moved
      refine ⟨.requesting, rfl, ?_, ?_, fun held => absurd held Bool.false_ne_true,
        fun _ => ?_⟩
      · rw [sleeping]
        exact Nat.lt_succ_self 1
      · rw [sleeping]
        rfl
      · rw [sleeping]
        rfl
    · cases moved
  -- The permit is given back whatever the reply is.
  | pageReply task reply =>
    show ∃ phase, state.Passes next task phase
    simp only [FetchTasks.step] at moved
    split at moved
    · rename_i waits
      obtain rfl := Option.some.inj moved
      exact FetchTasks.passes_receive waits reply
    · cases moved

/-- An exception in a call is a passage. -/
theorem FetchState.passes_of_interrupt (moved : state.interrupt task = some next) :
    state.Passes next task (.finished (.error .otherError)) := by
  -- Each phase gives back what it holds, and the call is over.
  unfold FetchState.interrupt at moved
  split at moved
  case h_1 origin seeks =>
    obtain rfl := Option.some.inj moved
    refine FetchState.passes_move ?_ (by rw [seeks]; exact ⟨rfl, rfl⟩) ⟨rfl, rfl⟩
    rw [seeks]
    exact show 0 < 6 by omega
  case h_2 queued =>
    obtain rfl := Option.some.inj moved
    refine FetchState.passes_move ?_ (by rw [queued]; exact ⟨rfl, rfl⟩) ⟨rfl, rfl⟩
    rw [queued]
    exact show 0 < 3 by omega
  -- The call holds the lock while it waits for the rules.
  case h_3 origin waits =>
    obtain rfl := Option.some.inj moved
    refine ⟨rfl, ?_, ?_, nofun, fun _ => ?_⟩
    · rw [waits]
      exact show 0 < 5 by omega
    · rw [waits]
      rfl
    · rw [waits]
      rfl
  -- From here on the call holds a permit.
  case h_4 sleeping =>
    obtain rfl := Option.some.inj moved
    refine ⟨rfl, ?_, ?_, nofun, fun _ => ?_⟩
    · rw [sleeping]
      exact show 0 < 2 by omega
    · rw [sleeping]
      rfl
    · rw [sleeping]
      rfl
  case h_5 waits =>
    obtain rfl := Option.some.inj moved
    refine ⟨rfl, ?_, ?_, nofun, fun _ => ?_⟩
    · rw [waits]
      exact Nat.zero_lt_one
    · rw [waits]
      rfl
    · rw [waits]
      rfl
  all_goals cases moved

/-- Whatever happens is a passage of the call it happens to. -/
theorem FetchTasks.passes (moved : tasks.stepOrInterrupt state event = some next) :
    ∃ phase, state.Passes next event.task phase := by
  -- An interrupted call passes to its end and gives back what it held.
  cases event with
  | call event => exact tasks.passes_of_step moved
  | interrupt task => exact ⟨_, FetchState.passes_of_interrupt moved⟩

/-- A call takes no more steps than it has left. -/
theorem FetchTasks.countP_le_stepsLeft {events : List (InterruptibleEvent Task)}
    (ran : run tasks.stepOrInterrupt state events = some final) (task : Task) :
    events.countP (fun event => event.task = task) ≤ (state.phase task).stepsLeft := by
  -- A step of the call brings it nearer to its end.
  refine countP_le_weight (fun state event next moved => ?_) ran task
  obtain ⟨phase, passes⟩ := tasks.passes moved
  exact ⟨phase, passes.shorter, passes.moved⟩

variable [Fintype Task]

/-- The semaphore is with the calls that wait behind it, and the lock with the one that asks. -/
structure FetchState.Balanced (maxConcurrency : Nat) (state : FetchState Task Rules) : Prop where
  permits : state.permits + count CallPhase.holdsPermit state.phase = maxConcurrency
  lock : ∀ task, state.lockHolder = some task ↔ (state.phase task).holdsLock = true

omit [DecidableEq Task] in
/-- A new fetcher has its lock and all its permits. -/
theorem FetchState.Balanced.initial (cache : CacheDir) (maxConcurrency : Nat) :
    (FetchState.initial cache maxConcurrency : FetchState Task Rules).Balanced maxConcurrency where
  -- No call holds anything at the start.
  permits := by
    have none : count CallPhase.holdsPermit (fun _ : Task => (.idle : CallPhase Rules)) = 0 :=
      total_eq_zero.mpr fun _ => rfl
    exact congrArg (maxConcurrency + ·) none
  lock _ := ⟨nofun, nofun⟩

omit [Fintype Task] in
/-- A passage keeps the lock with the call that asks for rules. -/
theorem FetchState.Passes.lock {phase : CallPhase Rules} (passes : state.Passes next task phase)
    (held : ∀ other, state.lockHolder = some other ↔ (state.phase other).holdsLock = true)
    (other : Task) : next.lockHolder = some other ↔ (next.phase other).holdsLock = true := by
  rw [passes.moved]
  cases takes : phase.holdsLock with
  | true =>
    -- The lock was free, so no other call was asking.
    obtain ⟨free, taken⟩ := passes.locked takes
    rw [taken, Option.some.injEq]
    by_cases same : other = task
    · subst same
      rw [Function.update_self]
      exact ⟨fun _ => takes, fun _ => rfl⟩
    · rw [Function.update_of_ne same, ← held other, free]
      exact ⟨fun equal => absurd equal.symm same, nofun⟩
  -- The lock stays with its holder, unless the holder has moved.
  | false =>
    rw [passes.unlocked takes]
    by_cases same : other = task
    · subst same
      rw [Function.update_self, takes]
      refine ⟨fun holder => ?_, nofun⟩
      split at holder
      · cases holder
      · rename_i without
        exact absurd ((held other).mp holder) without
    · rw [Function.update_of_ne same, ← held other]
      split
      · rename_i gives
        have holder := (held task).mpr gives
        rw [holder, Option.some.injEq]
        exact ⟨nofun, fun equal => absurd equal.symm same⟩
      · rfl

/-- Every step and every exception keeps the balance. -/
theorem FetchState.Balanced.step {maxConcurrency : Nat} (balanced : state.Balanced maxConcurrency)
    (moved : tasks.stepOrInterrupt state event = some next) : next.Balanced maxConcurrency := by
  -- One call trades what it holds, and the others keep what they hold.
  obtain ⟨phase, passes⟩ := tasks.passes moved
  refine ⟨?_, passes.lock balanced.lock⟩
  rw [passes.moved]
  exact free_add_count balanced.permits passes.traded

/-- The steps that all calls together may still make. -/
def FetchState.stepsLeft (state : FetchState Task Rules) : Nat :=
  total CallPhase.stepsLeft state.phase

/-- Every step and every exception uses up one of the steps that are left. -/
theorem FetchTasks.stepsLeft_lt (moved : tasks.stepOrInterrupt state event = some next) :
    next.stepsLeft < state.stepsLeft := by
  -- The call that moves has fewer steps left, and the others as many as before.
  obtain ⟨phase, passes⟩ := tasks.passes moved
  unfold FetchState.stepsLeft
  rw [passes.moved]
  exact total_update_lt passes.shorter

/-- An event without an exception, where each call gets the replies meant for it. -/
def InterruptibleEvent.Regular (robots : Task → RobotsReply) (pages : Task → PageReply) :
    InterruptibleEvent Task → Prop
  -- Every site answers, and always in the same way.
  | .call (.robotsReply task reply) => reply = robots task
  | .call (.pageReply task reply) => reply = pages task
  | .call _ => True
  | .interrupt _ => False

/-- Some call can go on without an exception. -/
def FetchTasks.CanGoOn (tasks : FetchTasks Task Rules) (robots : Task → RobotsReply)
    (pages : Task → PageReply) (state : FetchState Task Rules) : Prop :=
  -- Some call can make a step, with the answers that are given.
  ∃ event next, event.Regular robots pages ∧ tasks.stepOrInterrupt state event = some next

omit [Fintype Task] in
/-- A call that waits for nothing another call holds can go on. -/
theorem FetchTasks.canGoOn_of_free (tasks : FetchTasks Task Rules) (robots : Task → RobotsReply)
    (pages : Task → PageReply)
    (free : (state.phase task).ended = false ∧ (state.phase task).waits = false) :
    tasks.CanGoOn robots pages state := by
  -- Each of the other phases has its own event.
  have goes : ∀ event, InterruptibleEvent.Regular robots pages (.call event) →
      (tasks.step state event).isSome = true → tasks.CanGoOn robots pages state := by
    intro event regular moved
    obtain ⟨next, moved⟩ := Option.isSome_iff_exists.mp moved
    exact ⟨.call event, next, regular, moved⟩
  cases stands : state.phase task with
  | idle =>
    refine goes (.start task) trivial ?_
    cases found : tasks.fetcher.cached tasks.library state.cache (tasks.url task) with
    | some bytes => simp only [FetchTasks.step, stands, found, Option.isSome_some]
    | none => simp only [FetchTasks.step, stands, found, Option.isSome_some]
  | fetchingRobots origin =>
    refine goes (.robotsReply task (robots task)) rfl ?_
    simp only [FetchTasks.step, stands, Option.isSome_some]
  | deciding rules =>
    refine goes (.decide task) trivial ?_
    simp only [FetchTasks.step, stands, Option.isSome_some]
  | sleeping =>
    refine goes (.send task) trivial ?_
    simp only [FetchTasks.step, stands, Option.isSome_some]
  | requesting =>
    refine goes (.pageReply task (pages task)) rfl ?_
    simp only [FetchTasks.step, stands, Option.isSome_some]
  -- These two wait for the lock and for a permit.
  | seeking | queued =>
    rw [stands] at free
    cases free.2
  | answered | finished =>
    rw [stands] at free
    cases free.1

/-- While a call is not over, some call can go on. -/
theorem FetchTasks.progress {maxConcurrency : Nat} (tasks : FetchTasks Task Rules)
    (positive : 0 < maxConcurrency) (robots : Task → RobotsReply) (pages : Task → PageReply)
    (balanced : state.Balanced maxConcurrency) :
    (∀ task, (state.phase task).ended = true) ∨ tasks.CanGoOn robots pages state := by
  by_contra stuck
  push Not at stuck
  obtain ⟨⟨task, unfinished⟩, stuck⟩ := stuck
  -- Nothing is held, since the call that holds it could go on.
  have unheld : ∀ other, ¬((state.phase other).holdsLock = true ∨
      (state.phase other).holdsPermit = true) := by
    intro other held
    exact stuck (tasks.canGoOn_of_free robots pages (CallPhase.free_of_holds held))
  have unlocked : state.lockHolder = none := by
    by_contra taken
    obtain ⟨other, holder⟩ := Option.ne_none_iff_exists'.mp taken
    exact unheld other (.inl ((balanced.lock other).mp holder))
  -- No permit is held, so all of them are free.
  obtain ⟨permits, free⟩ : ∃ permits, state.permits = permits + 1 := by
    have none : count CallPhase.holdsPermit state.phase = 0 := by
      by_contra some
      obtain ⟨other, held⟩ := exists_of_count_pos (Nat.pos_of_ne_zero some)
      exact unheld other (.inr held)
    have all := balanced.permits
    refine Nat.exists_eq_succ_of_ne_zero ?_
    omega
  -- So the call that is not over is not kept waiting.
  cases stands : state.phase task with
  | seeking origin =>
    have entered : (FetchTasks.enterLock state task origin).isSome = true := by
      unfold FetchTasks.enterLock
      rw [unlocked]
      cases state.robots origin with
      | some rules => rfl
      | none => rfl
    obtain ⟨next, entered⟩ := Option.isSome_iff_exists.mp entered
    apply stuck
    refine ⟨.call (.enterLock task), next, trivial, ?_⟩
    simp only [FetchTasks.stepOrInterrupt, FetchTasks.step, stands, entered]
  | queued =>
    apply stuck
    refine ⟨.call (.acquire task), { state.move task .sleeping with permits }, trivial, ?_⟩
    simp only [FetchTasks.stepOrInterrupt, FetchTasks.step, stands, free]
  | idle | fetchingRobots | deciding | sleeping | requesting =>
    have goes : (state.phase task).ended = false ∧ (state.phase task).waits = false := by
      rw [stands]
      exact ⟨rfl, rfl⟩
    exact stuck (tasks.canGoOn_of_free robots pages goes)
  | answered | finished =>
    rw [stands] at unfinished
    exact unfinished rfl

end Steps

/-- However calls interleave and fail, the lock and the permits return, and all calls can end. -/
theorem fetch_capacity [Fintype Task] (tasks : FetchTasks Task Rules) (cache : CacheDir)
    (maxConcurrency : Nat) (events : List (InterruptibleEvent Task))
    (final : FetchState Task Rules)
    (ran : run tasks.stepOrInterrupt (.initial cache maxConcurrency) events = some final) :
    final.permits + count CallPhase.holdsPermit final.phase = maxConcurrency ∧
    (∀ task, final.lockHolder = some task ↔ (final.phase task).holdsLock = true) ∧
    (∀ task, events.countP (fun event => event.task = task) ≤ 7) ∧
    (0 < maxConcurrency → ∀ (robots : Task → RobotsReply) (pages : Task → PageReply),
      ∃ rest settled, run tasks.stepOrInterrupt final rest = some settled ∧
        (∀ event ∈ rest, event.Regular robots pages) ∧
        (∀ task, (settled.phase task).ended = true) ∧
        settled.permits = maxConcurrency ∧ settled.lockHolder = none) := by
  -- The steps left bound each call, and lead the run to its end; what is over holds nothing.
  have balanced : final.Balanced maxConcurrency :=
    kept_of_run (fun _ _ _ holds moved => holds.step moved)
      (FetchState.Balanced.initial cache maxConcurrency) ran
  refine ⟨balanced.permits, balanced.lock, fun task => tasks.countP_le_stepsLeft ran task,
    fun positive robots pages => ?_⟩
  · obtain ⟨rest, settled, ended, regular, holds, all⟩ :=
      exists_run_to_goal (fun _ _ _ moved => tasks.stepsLeft_lt moved)
        (fun _ _ _ holds moved => holds.step moved)
        (fun _ holds => tasks.progress positive robots pages holds) balanced
    have unheld : ∀ task, ¬((settled.phase task).holdsLock = true ∨
        (settled.phase task).holdsPermit = true) := by
      intro task held
      have unfinished := (CallPhase.free_of_holds held).1
      rw [all task] at unfinished
      cases unfinished
    -- Every call is over, so no permit is held.
    have none : count CallPhase.holdsPermit settled.phase = 0 :=
      total_eq_zero.mpr fun task => by
        rw [Bool.toNat_eq_zero]
        exact Bool.eq_false_iff.mpr fun held => unheld task (.inr held)
    have returned := holds.permits
    refine ⟨rest, settled, ended, regular, all, by omega, ?_⟩
    -- Nor is the lock.
    by_contra taken
    obtain ⟨task, holder⟩ := Option.ne_none_iff_exists'.mp taken
    exact unheld task (.inl ((holds.lock task).mp holder))

/-- The call that asks for the rules is cancelled, and the other one gets its page all the same. -/
theorem fetch_capacity_twoCalls :
    ∃ final, run twoCalls.stepOrInterrupt (.initial .empty 1)
        [.call (.start false), .call (.start true), .call (.enterLock false), .interrupt false] =
          some final ∧
      final.permits + count CallPhase.holdsPermit final.phase = 1 ∧
      ∃ rest settled, run twoCalls.stepOrInterrupt final rest = some settled ∧
        (∀ task, (settled.phase task).ended = true) ∧ settled.lockHolder = none := by
  -- The first call is interrupted inside the lock while the second one waits for it.
  have possible : (run twoCalls.stepOrInterrupt (.initial .empty 1)
      [.call (.start false), .call (.start true), .call (.enterLock false),
        .interrupt false]).isSome = true := by
    decide +kernel
  obtain ⟨final, ran⟩ := Option.isSome_iff_exists.mp possible
  obtain ⟨balanced, -, -, completes⟩ := fetch_capacity twoCalls .empty 1 _ final ran
  obtain ⟨rest, settled, ended, -, all, -, unlocked⟩ :=
    completes Nat.zero_lt_one (fun _ => .httpError) (fun _ => .body "Pike")
  exact ⟨final, ran, balanced, rest, settled, ended, all, unlocked⟩

end TorqueFinder
