import TorqueFinder.Discovery.Fetcher
import TorqueFinder.Lib.Transition

/-! Concurrent calls of one fetcher, cut into the steps between which other calls may run. -/

namespace TorqueFinder

open PyText TextFile Transition

/-- What a fetcher relies on to follow the rules of a site. -/
structure RobotsLibrary (Rules : Type*) where
  /-- The scheme and the host of a URL, or nothing for the `ValueError` of `urlsplit`. -/
  originOf : String → Option String
  /-- `RobotFileParser.parse`, which makes rules of any lines. -/
  parse : List String → Rules
  /-- `can_fetch` for the agent of the fetcher, or nothing for a `ValueError`. -/
  canFetch : Rules → String → Option Bool

/-- How a request for the rules of a site ends. -/
inductive RobotsReply where
  /-- A response with its status and decoded text. -/
  | response (status : Int) (text : String)
  /-- An error of the HTTP client. -/
  | httpError
  deriving DecidableEq

/-- The lines that are parsed, which are none unless the file is there. -/
def RobotsReply.lines : RobotsReply → List String
  -- Any other status means that there are no rules.
  | .response status text => if status = 200 then splitLines text else []
  | .httpError => []

/-- How a request for a page ends. -/
inductive PageReply where
  /-- A response without an error status, with its decoded body. -/
  | body (text : String)
  /-- An error of the HTTP client or an error status, with its text. -/
  | httpError (cause : String)
  /-- Any other exception. -/
  | otherError
  deriving DecidableEq

/-- How a call fails. -/
inductive CallFailure where
  /-- The domain error the crawler knows. -/
  | discovery (error : DiscoveryError)
  /-- A cached file is not UTF-8. -/
  | unicodeDecodeError
  /-- A URL that cannot be split. -/
  | valueError
  /-- Any other exception of the HTTP client. -/
  | otherError
  deriving DecidableEq

/-- The error of a call whose URL the rules refuse. -/
def blockedByRobots (url : String) : CallFailure :=
  .discovery ⟨"blocked by robots.txt: " ++ url⟩

/-- Where a call stands between two of its steps. -/
inductive CallPhase (Rules : Type*) where
  /-- The call has not started. -/
  | idle
  /-- The rules were missing, and the lock has not been taken yet. -/
  | seeking (origin : String)
  /-- The lock is held while the rules are requested. -/
  | fetchingRobots (origin : String)
  /-- The rules are known. -/
  | deciding (rules : Rules)
  /-- The URL is allowed, and the semaphore has not been taken yet. -/
  | queued
  /-- The semaphore is held during the delay. -/
  | sleeping
  /-- The semaphore is held while the page is requested. -/
  | requesting
  /-- The call has ended with what the cache holds. -/
  | answered (result : Except CallFailure String)
  /-- The call has ended otherwise. -/
  | finished (result : Except CallFailure String)

/-- What a step does besides moving its call. -/
inductive FetchAction (Rules : Type*) where
  | robotsRequest (origin : String)
  /-- The rules of a site are parsed and kept. -/
  | rulesStored (origin : String) (rules : Rules)
  | pageRequest (url : String)
  | cacheWritten (url body : String)

/-- What the calls share, where each of them stands, and what has been done so far. -/
structure FetchState (Task Rules : Type*) where
  cache : CacheDir
  /-- The rules that are kept, by site. -/
  robots : String → Option Rules
  lockHolder : Option Task
  /-- How many calls may still take the semaphore. -/
  permits : Nat
  phase : Task → CallPhase Rules
  log : List (FetchAction Rules)

/-- A step of one call, with what its request brings. -/
inductive FetchEvent (Task : Type*) where
  | start (task : Task)
  | enterLock (task : Task)
  | robotsReply (task : Task) (reply : RobotsReply)
  | decide (task : Task)
  | acquire (task : Task)
  | send (task : Task)
  | pageReply (task : Task) (reply : PageReply)

/-- One fetcher with its calls. -/
structure FetchTasks (Task Rules : Type*) where
  fetcher : Fetcher
  library : PageLibrary
  robotsLibrary : RobotsLibrary Rules
  /-- The URL each call is made for. -/
  url : Task → String

variable {Task Rules : Type*} [DecidableEq Task]

/-- A fetcher before its first call, with what the cache directory holds already. -/
def FetchState.initial (cache : CacheDir) (maxConcurrency : Nat) : FetchState Task Rules where
  cache := cache
  -- No rules have been fetched, and the lock is free.
  robots _ := none
  lockHolder := none
  permits := maxConcurrency
  phase _ := .idle
  log := []

/-- One call moves on. -/
def FetchState.move (state : FetchState Task Rules) (task : Task) (phase : CallPhase Rules) :
    FetchState Task Rules :=
  { state with phase := Function.update state.phase task phase }

/-- Something is done. -/
def FetchState.act (state : FetchState Task Rules) (action : FetchAction Rules) :
    FetchState Task Rules :=
  { state with log := state.log ++ [action] }

namespace FetchTasks

variable (tasks : FetchTasks Task Rules)

/-- The result of a call that finds its page in the cache. -/
def cachedResult (bytes : ByteArray) : Except CallFailure String :=
  match readText bytes with
  | some text => .ok text
  -- Bytes that are no text are an exception that the fetcher does not wrap.
  | none => .error .unicodeDecodeError

/-- Where a call goes that does not find its page in the cache. -/
def beginLive (state : FetchState Task Rules) (task : Task) : CallPhase Rules :=
  if !tasks.fetcher.respectRobots then .queued
  else
    match tasks.robotsLibrary.originOf (tasks.url task) with
    | none => .finished (.error .valueError)
    | some origin =>
      -- The rules are read without the lock first.
      match state.robots origin with
      | some rules => .deciding rules
      | none => .seeking origin

/-- Where a call goes that knows the rules. -/
def decision (rules : Rules) (task : Task) : CallPhase Rules :=
  match tasks.robotsLibrary.canFetch rules (tasks.url task) with
  -- An address that cannot be parsed is refused by an exception.
  | none => .finished (.error .valueError)
  | some false => .finished (.error (blockedByRobots (tasks.url task)))
  | some true => .queued

/-- A call takes the lock, unless another one holds it. -/
def enterLock (state : FetchState Task Rules) (task : Task) (origin : String) :
    Option (FetchState Task Rules) :=
  match state.lockHolder with
  | some _ => none
  | none =>
    -- The rules are read again, since they may have been stored in between.
    match state.robots origin with
    | some rules => some (state.move task (.deciding rules))
    | none =>
      some { (state.move task (.fetchingRobots origin)).act (.robotsRequest origin) with
        lockHolder := some task }

/-- A call keeps the rules it got and releases the lock. -/
def storeRules (state : FetchState Task Rules) (task : Task) (origin : String)
    (reply : RobotsReply) : FetchState Task Rules :=
  let rules := tasks.robotsLibrary.parse reply.lines
  -- The rules are stored and the lock released in one step.
  { (state.move task (.deciding rules)).act (.rulesStored origin rules) with
    robots := Function.update state.robots origin (some rules)
    lockHolder := none }

/-- A call ends with the reply to its request, and releases the semaphore. -/
def receive (state : FetchState Task Rules) (task : Task) (reply : PageReply) :
    FetchState Task Rules :=
  let url := tasks.url task
  let released := { state with permits := state.permits + 1 }
  match reply with
  | .body text =>
    -- The body is cached after the semaphore is released.
    { (released.move task (.finished (.ok text))).act (.cacheWritten url text) with
      cache := state.cache.write (cachePath tasks.library url) (writeText text) }
  | .httpError cause =>
    released.move task
      (.finished (.error (.discovery ⟨"fetch failed for " ++ url ++ ": " ++ cause⟩)))
  | .otherError => released.move task (.finished (.error .otherError))

/-- The state after one step of a call, when the call can make it. -/
def step (state : FetchState Task Rules) : FetchEvent Task → Option (FetchState Task Rules)
  | .start task =>
    match state.phase task with
    | .idle =>
      match tasks.fetcher.cached tasks.library state.cache (tasks.url task) with
      | some bytes => some (state.move task (.answered (cachedResult bytes)))
      | none => some (state.move task (tasks.beginLive state task))
    | _ => none
  -- The first call inside the lock fetches the rules, and the others find them.
  | .enterLock task =>
    match state.phase task with
    | .seeking origin => enterLock state task origin
    | _ => none
  | .robotsReply task reply =>
    match state.phase task with
    | .fetchingRobots origin => some (tasks.storeRules state task origin reply)
    | _ => none
  | .decide task =>
    match state.phase task with
    | .deciding rules => some (state.move task (tasks.decision rules task))
    | _ => none
  -- A permit is taken before the pause in front of the request.
  | .acquire task =>
    match state.phase task, state.permits with
    | .queued, permits + 1 => some { state.move task .sleeping with permits }
    | _, _ => none
  -- The page is requested while the permit is held.
  | .send task =>
    match state.phase task with
    | .sleeping => some ((state.move task .requesting).act (.pageRequest (tasks.url task)))
    | _ => none
  | .pageReply task reply =>
    match state.phase task with
    | .requesting => some (tasks.receive state task reply)
    | _ => none

end FetchTasks

section Moves

variable {state : FetchState Task Rules} {task : Task} {phase : CallPhase Rules}

/-- The call that moved stands where it moved to. -/
@[simp] theorem FetchState.phase_move : (state.move task phase).phase task = phase :=
  Function.update_self _ _ _

/-- The other calls stand where they stood. -/
theorem FetchState.phase_move_of_ne {other : Task} (different : other ≠ task) :
    (state.move task phase).phase other = state.phase other :=
  Function.update_of_ne different _ _

end Moves

section Alone

variable {tasks : FetchTasks Task Rules} {task : Task} {cache : CacheDir} {origin : String}
  {allowed : Bool}

/-- The sites as one call finds them: the rules it gets, and the reply to its request. -/
def FetchTasks.webOf (tasks : FetchTasks Task Rules) (rules : RobotsReply)
    (reply : Except String String) : Web where
  -- The rules are parsed from the lines of the reply.
  canFetch url :=
    tasks.robotsLibrary.canFetch (tasks.robotsLibrary.parse rules.lines) url == some true
  reply _ := reply

/-- A reply as the step of a call takes it. -/
def pageReplyOf : Except String String → PageReply
  | .ok text => .body text
  | .error cause => .httpError cause

/-- How a call ends that a fetcher makes on its own. -/
def resultOf : Except FetchFailure (String × CacheDir) → Except CallFailure String
  -- The text of a successful request is the result of the call.
  | .ok (text, _) => .ok text
  | .error (.discovery error) => .error (.discovery error)
  | .error .unicodeDecodeError => .error .unicodeDecodeError

/-- The cache a call leaves that a fetcher makes on its own. -/
def cacheOf (cache : CacheDir) : Except FetchFailure (String × CacheDir) → CacheDir
  | .ok (_, next) => next
  -- A request that fails writes nothing.
  | .error _ => cache

/-- The steps of a call up to its decision. -/
def stepsToDecision (task : Task) (rules : RobotsReply) : List (FetchEvent Task) :=
  [.start task, .enterLock task, .robotsReply task rules, .decide task]

/-- The steps of a call behind its decision. -/
def stepsToReply (task : Task) (reply : Except String String) : List (FetchEvent Task) :=
  [.acquire task, .send task, .pageReply task (pageReplyOf reply)]

/-- A call on its own gets to its decision. -/
theorem run_stepsToDecision (permits : Nat) (respects : tasks.fetcher.respectRobots = true)
    (miss : tasks.fetcher.cached tasks.library cache (tasks.url task) = none)
    (site : tasks.robotsLibrary.originOf (tasks.url task) = some origin) (rules : RobotsReply) :
    ∃ decided : FetchState Task Rules,
      run tasks.step (.initial cache permits) (stepsToDecision task rules) = some decided ∧
      decided.cache = cache ∧ decided.permits = permits ∧
      decided.phase task = tasks.decision (tasks.robotsLibrary.parse rules.lines) task := by
  -- Each step finds the call in the phase the one before it left it in.
  let sought : FetchState Task Rules :=
    FetchState.move (.initial cache permits) task (.seeking origin)
  let locked : FetchState Task Rules :=
    { (sought.move task (.fetchingRobots origin)).act (.robotsRequest origin) with
      lockHolder := some task }
  let stored := tasks.storeRules locked task origin rules
  have first : tasks.step (.initial cache permits) (.start task) = some sought := by
    simp [FetchTasks.step, FetchState.initial, miss, FetchTasks.beginLive, respects, site, sought]
  have second : tasks.step sought (.enterLock task) = some locked := by
    simp [FetchTasks.step, FetchTasks.enterLock, sought, locked, FetchState.initial,
      FetchState.move]
  have third : tasks.step locked (.robotsReply task rules) = some stored := by
    simp [FetchTasks.step, locked, FetchState.act, FetchState.move, stored]
  have fourth : tasks.step stored (.decide task) =
      some (stored.move task (tasks.decision (tasks.robotsLibrary.parse rules.lines) task)) := by
    simp [FetchTasks.step, stored, FetchTasks.storeRules, FetchState.act, FetchState.move]
  refine ⟨stored.move task _, ?_, rfl, rfl, FetchState.phase_move⟩
  simp [run, stepsToDecision, first, second, third, fourth]

/-- An allowed call on its own ends with the reply it gets. -/
theorem run_stepsToReply {state : FetchState Task Rules} {permits : Nat}
    (queued : state.phase task = .queued) (free : state.permits = permits + 1)
    (reply : Except String String) :
    ∃ final, run tasks.step state (stepsToReply task reply) = some final ∧
      final.phase task =
        .finished (match reply with
          | .ok text => .ok text
          | .error cause => .error (.discovery
              ⟨"fetch failed for " ++ tasks.url task ++ ": " ++ cause⟩)) ∧
      final.cache = (match reply with
        | .ok text =>
          state.cache.write (cachePath tasks.library (tasks.url task)) (writeText text)
        | .error _ => state.cache) := by
  -- The three steps are evaluated one after the other; only the reply decides how the call ends.
  let asked := ((FetchState.move { state.move task .sleeping with permits } task .requesting).act
    (.pageRequest (tasks.url task)))
  refine ⟨tasks.receive asked task (pageReplyOf reply), ?_, ?_, ?_⟩
  · simp [run, stepsToReply, FetchTasks.step, queued, free, FetchState.move, FetchState.act, asked]
  · cases reply <;> exact FetchState.phase_move
  · cases reply <;> rfl

/-- A call on its own ends like the fetcher that knows nothing of other calls. -/
theorem get_of_run (permits : Nat) (respects : tasks.fetcher.respectRobots = true)
    (miss : tasks.fetcher.cached tasks.library cache (tasks.url task) = none)
    (site : tasks.robotsLibrary.originOf (tasks.url task) = some origin) (rules : RobotsReply)
    (decided : tasks.robotsLibrary.canFetch (tasks.robotsLibrary.parse rules.lines)
      (tasks.url task) = some allowed) (reply : Except String String) :
    ∃ final, run tasks.step (.initial cache (permits + 1)) (stepsToDecision task rules ++
        if allowed then stepsToReply task reply else []) = some final ∧
      final.phase task = .finished (resultOf
        (tasks.fetcher.get tasks.library (tasks.webOf rules reply) (tasks.url task) cache)) ∧
      final.cache = cacheOf cache
        (tasks.fetcher.get tasks.library (tasks.webOf rules reply) (tasks.url task) cache) := by
  -- Both sides find the cache empty, decide by the same rules, and end with the same reply.
  obtain ⟨middle, ran, sameCache, free, phase⟩ :=
    run_stepsToDecision (permits + 1) respects miss site rules
  have live : tasks.fetcher.allowed (tasks.webOf rules reply) (tasks.url task) = allowed := by
    cases allowed <;> simp [Fetcher.allowed, respects, FetchTasks.webOf, decided]
  rw [run_append ran]
  cases allowed with
  -- A refused URL ends without a request.
  | false =>
    have got : tasks.fetcher.get tasks.library (tasks.webOf rules reply) (tasks.url task) cache =
        .error (.discovery ⟨"blocked by robots.txt: " ++ tasks.url task⟩) := by
      rw [Fetcher.get, miss, Fetcher.fetchLive, live]
      rfl
    refine ⟨middle, rfl, ?_, ?_⟩
    · rw [phase, FetchTasks.decision, decided, got]
      rfl
    · rw [sameCache, got]
      rfl
  -- An allowed one takes a permit and sends the request.
  | true =>
    have queued : middle.phase task = .queued := by
      rw [phase, FetchTasks.decision, decided]
    obtain ⟨final, later, result, stored⟩ := run_stepsToReply queued free reply
    refine ⟨final, later, ?_⟩
    rw [result, stored, sameCache, Fetcher.get, miss, Fetcher.fetchLive, live]
    cases reply <;> exact ⟨rfl, rfl⟩

end Alone

end TorqueFinder
