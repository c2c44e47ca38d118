import TorqueFinder.Discovery.ConcurrentFetch

/-! However its calls interleave, a fetcher asks for the rules of a site once and obeys them. -/

namespace TorqueFinder

open PyJson PyText TextFile Transition

section Log

variable {Rules : Type*}

/-- A request for the rules of a site. -/
def FetchAction.isRobotsRequest (origin : String) : FetchAction Rules → Bool
  | .robotsRequest other => other == origin
  | _ => false

/-- The rules of a site are parsed and kept. -/
def FetchAction.isRulesStored (origin : String) : FetchAction Rules → Bool
  | .rulesStored other _ => other == origin
  | _ => false

/-- An action that is not among the ones counted can be done once more. -/
theorem countP_concat_le_one {log : List (FetchAction Rules)} {counted : FetchAction Rules → Bool}
    {action : FetchAction Rules} (once : log.countP counted ≤ 1)
    (fresh : counted action = true → ∀ other ∈ log, counted other = false) :
    (log ++ [action]).countP counted ≤ 1 := by
  -- A new action that counts is the first one that does.
  rw [List.countP_append, List.countP_singleton]
  by_cases new : counted action = true
  · have none : log.countP counted = 0 :=
      List.countP_eq_zero.mpr fun other member => by simp [fresh new other member]
    simp [none, new]
  · simpa [new] using once

/-- What stands in a log before its last action stood there before that action was done. -/
theorem prefix_of_prefix_concat {front log : List (FetchAction Rules)}
    {done action : FetchAction Rules} (ahead : front ++ [done] <+: log ++ [action])
    (different : done ≠ action) : front ++ [done] <+: log := by
  -- A prefix that is not the whole log ends before its last action.
  rcases List.prefix_concat_iff.mp ahead with whole | earlier
  · have last : [done] = [action] := List.append_inj_right' whole rfl
    exact absurd (List.cons.inj last).1 different
  · exact earlier

end Log

variable {Task Rules : Type*}

/-- What the rules that are kept for the site of a URL say about it. -/
def FetchTasks.Verdict (tasks : FetchTasks Task Rules) (state : FetchState Task Rules)
    (url : String) (verdict : Option Bool) : Prop :=
  -- The rules of the site are known, and this is what they say.
  ∃ origin rules, tasks.robotsLibrary.originOf url = some origin ∧
    state.robots origin = some rules ∧ tasks.robotsLibrary.canFetch rules url = verdict

/-- What is known about a call from where it stands. -/
def FetchTasks.PhaseOk (tasks : FetchTasks Task Rules) (state : FetchState Task Rules)
    (task : Task) : CallPhase Rules → Prop
  | .idle | .answered _ => True
  | .seeking origin => tasks.robotsLibrary.originOf (tasks.url task) = some origin
  | .fetchingRobots origin =>
    tasks.robotsLibrary.originOf (tasks.url task) = some origin ∧
      state.lockHolder = some task ∧ state.robots origin = none
  | .deciding rules => ∃ origin, tasks.robotsLibrary.originOf (tasks.url task) = some origin ∧
      state.robots origin = some rules
  -- From the decision on, the call was allowed.
  | .queued | .sleeping | .requesting => tasks.Verdict state (tasks.url task) (some true)
  | .finished result =>
    -- A call ends refused, allowed, with bad rules or with an address that has no site.
    result = .error (blockedByRobots (tasks.url task)) ∨
      tasks.Verdict state (tasks.url task) (some true) ∨
      tasks.Verdict state (tasks.url task) none ∨
      tasks.robotsLibrary.originOf (tasks.url task) = none

/-- What holds between any two steps of the calls. -/
structure FetchTasks.Disciplined (tasks : FetchTasks Task Rules) (state : FetchState Task Rules) :
    Prop where
  phases : ∀ task, tasks.PhaseOk state task (state.phase task)
  stored : ∀ origin rules,
    state.robots origin = some rules ↔ FetchAction.rulesStored origin rules ∈ state.log
  storedOnce : ∀ origin, state.log.countP (FetchAction.isRulesStored origin) ≤ 1
  requestedOnce : ∀ origin, state.log.countP (FetchAction.isRobotsRequest origin) ≤ 1
  /-- Requested rules are kept, or the call that requested them still waits for them. -/
  requested : ∀ origin, FetchAction.robotsRequest origin ∈ state.log →
    state.robots origin ≠ none ∨ ∃ task, state.phase task = .fetchingRobots origin
  pages : ∀ front url, front ++ [FetchAction.pageRequest url] <+: state.log →
    ∃ origin rules, tasks.robotsLibrary.originOf url = some origin ∧
      FetchAction.rulesStored origin rules ∈ front ∧
      tasks.robotsLibrary.canFetch rules url = some true
  written : ∀ url body, FetchAction.cacheWritten url body ∈ state.log →
    tasks.Verdict state url (some true)

variable {tasks : FetchTasks Task Rules} {state next : FetchState Task Rules} {task : Task}
  {phase : CallPhase Rules} {url origin : String} {verdict : Option Bool}

/-- Rules that are kept keep what they say. -/
theorem FetchTasks.Verdict.mono (known : tasks.Verdict state url verdict)
    (kept : ∀ origin rules, state.robots origin = some rules → next.robots origin = some rules) :
    tasks.Verdict next url verdict := by
  -- Rules that are known stay known.
  obtain ⟨origin, rules, site, held, rule⟩ := known
  exact ⟨origin, rules, site, kept origin rules held, rule⟩

/-- The rules of a site say one thing about a URL. -/
theorem FetchTasks.Verdict.unique {other : Option Bool} (known : tasks.Verdict state url verdict)
    (also : tasks.Verdict state url other) : verdict = other := by
  -- A site has one set of rules.
  obtain ⟨origin, rules, site, held, rfl⟩ := known
  obtain ⟨another, more, alsoSite, alsoHeld, rfl⟩ := also
  obtain rfl := Option.some.inj (site.symm.trans alsoSite)
  obtain rfl := Option.some.inj (held.symm.trans alsoHeld)
  rfl

/-- What is known about a call stays known while rules are only added, unless it requests some. -/
theorem FetchTasks.PhaseOk.mono (ok : tasks.PhaseOk state task phase)
    (kept : ∀ origin rules, state.robots origin = some rules → next.robots origin = some rules)
    (waits : ∀ origin, phase = .fetchingRobots origin →
      next.lockHolder = some task ∧ next.robots origin = none) :
    tasks.PhaseOk next task phase := by
  -- Only a call that waits for rules needs that they are still missing.
  cases phase with
  | idle => trivial
  | answered result => trivial
  | seeking origin => exact ok
  | fetchingRobots origin => exact ⟨ok.1, waits origin rfl⟩
  | deciding rules =>
    obtain ⟨origin, site, held⟩ := ok
    exact ⟨origin, site, kept origin rules held⟩
  | queued => exact ok.mono kept
  | sleeping => exact ok.mono kept
  | requesting => exact ok.mono kept
  | finished result =>
    rcases ok with blocked | allowed | unclear | noSite
    · exact .inl blocked
    · exact .inr (.inl (allowed.mono kept))
    · exact .inr (.inr (.inl (unclear.mono kept)))
    · exact .inr (.inr (.inr noSite))

/-- What is known about a call depends on the rules and the lock alone. -/
theorem FetchTasks.phaseOk_congr (sameRules : next.robots = state.robots)
    (sameLock : next.lockHolder = state.lockHolder) :
    tasks.PhaseOk next task phase ↔ tasks.PhaseOk state task phase := by
  -- Only the rules and the lock are looked at.
  cases phase <;> simp [FetchTasks.PhaseOk, FetchTasks.Verdict, sameRules, sameLock]

namespace FetchTasks.Disciplined

/-- What is known about a call follows from the phase it is found in. -/
theorem standing (holds : tasks.Disciplined state) (found : state.phase task = phase) :
    tasks.PhaseOk state task phase := found ▸ holds.phases task

/-- Nothing that is known speaks of the cache or the semaphore. -/
theorem release (holds : tasks.Disciplined state) (cache : CacheDir) (permits : Nat) :
    tasks.Disciplined { state with cache, permits } where
  -- Neither the cache nor the permits say anything about the rules.
  phases task := (phaseOk_congr rfl rfl).mpr (holds.phases task)
  stored := holds.stored
  storedOnce := holds.storedOnce
  requestedOnce := holds.requestedOnce
  requested := holds.requested
  pages := holds.pages
  written := holds.written

/-- A page whose rules allow it may be requested. -/
theorem requestPage (holds : tasks.Disciplined state)
    (allowed : tasks.Verdict state url (some true)) :
    tasks.Disciplined (state.act (.pageRequest url)) where
  phases task := (phaseOk_congr rfl rfl).mpr (holds.phases task)
  stored origin rules := (holds.stored origin rules).trans (by simp [FetchState.act])
  storedOnce origin :=
    countP_concat_le_one (holds.storedOnce origin) (by simp [FetchAction.isRulesStored])
  requestedOnce origin :=
    countP_concat_le_one (holds.requestedOnce origin) (by simp [FetchAction.isRobotsRequest])
  requested origin member := holds.requested origin (by simpa [FetchState.act] using member)
  pages := by
    intro front other ahead
    -- The new action is the request itself, and its verdict is among the stored rules.
    rcases List.prefix_concat_iff.mp ahead with whole | earlier
    · obtain ⟨rfl, last⟩ := List.append_inj' whole rfl
      obtain rfl : other = url := by simpa using last
      obtain ⟨origin, rules, site, held, rule⟩ := allowed
      exact ⟨origin, rules, site, (holds.stored origin rules).mp held, rule⟩
    · exact holds.pages front other earlier
  written other body member := holds.written other body (by simpa [FetchState.act] using member)

/-- A page whose rules allow it may be written to the cache. -/
theorem writeCache (holds : tasks.Disciplined state)
    (allowed : tasks.Verdict state url (some true)) (body : String) :
    tasks.Disciplined (state.act (.cacheWritten url body)) where
  phases task := (phaseOk_congr rfl rfl).mpr (holds.phases task)
  stored origin rules := (holds.stored origin rules).trans (by simp [FetchState.act])
  storedOnce origin :=
    countP_concat_le_one (holds.storedOnce origin) (by simp [FetchAction.isRulesStored])
  requestedOnce origin :=
    countP_concat_le_one (holds.requestedOnce origin) (by simp [FetchAction.isRobotsRequest])
  requested origin member := holds.requested origin (by simpa [FetchState.act] using member)
  pages front other ahead :=
    holds.pages front other (prefix_of_prefix_concat ahead (by simp))
  -- What was written before was allowed, and so is the last URL.
  written := by
    intro other text member
    rcases List.mem_append.mp member with earlier | last
    · exact holds.written other text earlier
    · obtain ⟨rfl, _⟩ : other = url ∧ text = body := by simpa using last
      exact allowed

end FetchTasks.Disciplined

/-- A call that misses the cache goes where its phase is justified. -/
theorem FetchTasks.phaseOk_beginLive (respects : tasks.fetcher.respectRobots = true) :
    tasks.PhaseOk state task (tasks.beginLive state task) := by
  -- Without a site the call ends; with known rules it decides; otherwise it asks for them.
  unfold FetchTasks.beginLive
  rw [respects]
  simp only [Bool.not_true, Bool.false_eq_true, if_false]
  split
  · rename_i noSite
    exact .inr (.inr (.inr noSite))
  · rename_i origin site
    split
    · rename_i rules held
      exact ⟨origin, site, held⟩
    · exact site

/-- A call that knows the rules goes where its phase is justified. -/
theorem FetchTasks.phaseOk_decision {rules : Rules}
    (known : tasks.PhaseOk state task (.deciding rules)) :
    tasks.PhaseOk state task (tasks.decision rules task) := by
  -- The three answers of the rules lead to the three phases.
  obtain ⟨origin, site, held⟩ := known
  unfold FetchTasks.decision
  split
  · rename_i unclear
    exact .inr (.inr (.inl ⟨origin, rules, site, held, unclear⟩))
  · exact .inl rfl
  · rename_i allowed
    exact ⟨origin, rules, site, held, allowed⟩

namespace FetchTasks.Disciplined

/-- A fetcher before its first call has done nothing. -/
theorem initial (cache : CacheDir) (maxConcurrency : Nat) :
    tasks.Disciplined (.initial cache maxConcurrency) where
  -- Nothing is in the log, so nothing has to be accounted for.
  phases _ := trivial
  stored origin rules := by simp [FetchState.initial]
  storedOnce _ := Nat.zero_le 1
  requestedOnce _ := Nat.zero_le 1
  requested origin member := by simp [FetchState.initial] at member
  pages front url ahead := by simp [FetchState.initial] at ahead
  written url body member := by simp [FetchState.initial] at member

end FetchTasks.Disciplined

/-- Where a call of a refused URL can stand: not behind the decision, unless it was refused. -/
def FetchTasks.Refused (tasks : FetchTasks Task Rules) (url : String) : CallPhase Rules → Prop
  -- A refused call never gets to the request.
  | .queued | .sleeping | .requesting => False
  | .deciding rules => tasks.robotsLibrary.canFetch rules url = some false
  | .finished result => result = .error (blockedByRobots url)
  | .idle | .seeking _ | .fetchingRobots _ | .answered _ => True

/-- What is known of a call of a refused URL. -/
theorem FetchTasks.refused_of_phaseOk (refused : tasks.Verdict state (tasks.url task) (some false))
    (ok : tasks.PhaseOk state task phase) : tasks.Refused (tasks.url task) phase := by
  -- A phase behind the decision would have the rules say both.
  have notAllowed : ¬ tasks.Verdict state (tasks.url task) (some true) := by
    intro allowed
    cases refused.unique allowed
  cases phase with
  | idle => trivial
  | answered result => trivial
  | seeking origin => trivial
  | fetchingRobots origin => trivial
  | deciding rules =>
    obtain ⟨origin, site, held⟩ := ok
    exact FetchTasks.Verdict.unique ⟨origin, rules, site, held, rfl⟩ refused
  | queued => exact notAllowed ok
  | sleeping => exact notAllowed ok
  | requesting => exact notAllowed ok
  | finished result =>
    rcases ok with blocked | allowed | unclear | noSite
    · exact blocked
    · exact absurd allowed notAllowed
    · cases refused.unique unclear
    · obtain ⟨origin, _, site, _⟩ := refused
      cases noSite.symm.trans site

/-- The cache directory after what was written to it, in order. -/
def FetchTasks.cacheAfterLog (tasks : FetchTasks Task Rules) (start : CacheDir)
    (log : List (FetchAction Rules)) : CacheDir :=
  -- Only the writes in the log change the cache.
  log.foldl
    (fun cache action =>
      match action with
      | .cacheWritten url body => cache.write (cachePath tasks.library url) (writeText body)
      | _ => cache)
    start

variable [DecidableEq Task]

/-- What one step can do, with what it found before. -/
inductive FetchTasks.Moves (tasks : FetchTasks Task Rules) (state : FetchState Task Rules) :
    FetchState Task Rules → Prop where
  | answered {task : Task} (idle : state.phase task = .idle) (result : Except CallFailure String) :
    tasks.Moves state (state.move task (.answered result))
  | live {task : Task} (idle : state.phase task = .idle) :
    tasks.Moves state (state.move task (tasks.beginLive state task))
  | reread {task : Task} {origin : String} {rules : Rules}
    (seeks : state.phase task = .seeking origin) (held : state.robots origin = some rules) :
    tasks.Moves state (state.move task (.deciding rules))
  | robotsRequested {task : Task} {origin : String} (seeks : state.phase task = .seeking origin)
    (free : state.lockHolder = none) (missing : state.robots origin = none) :
    tasks.Moves state
      { (state.move task (.fetchingRobots origin)).act (.robotsRequest origin) with
        lockHolder := some task }
  | rulesStored {task : Task} {origin : String} (waits : state.phase task = .fetchingRobots origin)
    (reply : RobotsReply) : tasks.Moves state (tasks.storeRules state task origin reply)
  | decided {task : Task} {rules : Rules} (known : state.phase task = .deciding rules) :
    tasks.Moves state (state.move task (tasks.decision rules task))
  | acquired {task : Task} (queued : state.phase task = .queued) (permits : Nat) :
    tasks.Moves state { state.move task .sleeping with permits }
  | sent {task : Task} (sleeping : state.phase task = .sleeping) :
    tasks.Moves state ((state.move task .requesting).act (.pageRequest (tasks.url task)))
  | received {task : Task} (waits : state.phase task = .requesting) (reply : PageReply) :
    tasks.Moves state (tasks.receive state task reply)

/-- A step does one of these things. -/
theorem FetchTasks.moves_of_step {event : FetchEvent Task}
    (moved : tasks.step state event = some next) : tasks.Moves state next := by
  -- A call that is not in the phase its event asks for makes no step.
  cases event with
  | start task =>
    simp only [FetchTasks.step] at moved
    split at moved
    · rename_i idle
      split at moved
      · obtain rfl := Option.some.inj moved
        exact .answered idle _
      · obtain rfl := Option.some.inj moved
        exact .live idle
    · cases moved
  -- The lock leads to the rules, or to the request for them.
  | enterLock task =>
    simp only [FetchTasks.step] at moved
    split at moved
    · rename_i origin seeks
      unfold FetchTasks.enterLock at moved
      split at moved
      · cases moved
      · rename_i free
        split at moved
        · rename_i rules held
          obtain rfl := Option.some.inj moved
          exact .reread seeks held
        · rename_i missing
          obtain rfl := Option.some.inj moved
          exact .robotsRequested seeks free missing
    · cases moved
  -- The reply is parsed, stored and decided on.
  | robotsReply task reply =>
    simp only [FetchTasks.step] at moved
    split at moved
    · rename_i origin waits
      obtain rfl := Option.some.inj moved
      exact .rulesStored waits reply
    · cases moved
  | decide task =>
    simp only [FetchTasks.step] at moved
    split at moved
    · rename_i rules known
      obtain rfl := Option.some.inj moved
      exact .decided known
    · cases moved
  | acquire task =>
    simp only [FetchTasks.step] at moved
    split at moved
    · rename_i permits queued free
      obtain rfl := Option.some.inj moved
      exact .acquired queued permits
    · cases moved
  | send task =>
    simp only [FetchTasks.step] at moved
    split at moved
    · rename_i sleeping
      obtain rfl := Option.some.inj moved
      exact .sent sleeping
    · cases moved
  | pageReply task reply =>
    simp only [FetchTasks.step] at moved
    split at moved
    · rename_i waits
      obtain rfl := Option.some.inj moved
      exact .received waits reply
    · cases moved

namespace FetchTasks.Disciplined

/-- Moving one call keeps what is known about each, when it is known of the call that moved. -/
theorem phases_move (known : ∀ other ≠ task, tasks.PhaseOk next other (state.phase other))
    (ok : tasks.PhaseOk next task phase) (other : Task) :
    tasks.PhaseOk next other ((state.move task phase).phase other) := by
  -- The call that moves is fine by assumption, and the others by what is known of them.
  by_cases same : other = task
  · subst same
    rwa [FetchState.phase_move]
  · rw [FetchState.phase_move_of_ne same]
    exact known other same

/-- A call that does not wait for rules may move on to where its phase is justified. -/
theorem move (holds : tasks.Disciplined state)
    (ready : ∀ origin, state.phase task ≠ .fetchingRobots origin)
    (ok : tasks.PhaseOk state task phase) : tasks.Disciplined (state.move task phase) where
  -- A move logs nothing; only a call that fetches the rules may not leave its phase so.
  phases other :=
    (phaseOk_congr rfl rfl).mpr (phases_move (fun other _ => holds.phases other) ok other)
  stored := holds.stored
  storedOnce := holds.storedOnce
  requestedOnce := holds.requestedOnce
  requested := by
    intro origin member
    rcases holds.requested origin member with kept | ⟨holder, waits⟩
    · exact .inl kept
    · have different : holder ≠ task := fun same => ready origin (same ▸ waits)
      exact .inr ⟨holder, (FetchState.phase_move_of_ne different).trans waits⟩
  pages := holds.pages
  written := holds.written

/-- A call that takes the free lock requests the rules that are missing. -/
theorem requestRules (holds : tasks.Disciplined state) (free : state.lockHolder = none)
    (missing : state.robots origin = none)
    (site : tasks.robotsLibrary.originOf (tasks.url task) = some origin) :
    tasks.Disciplined { (state.move task (.fetchingRobots origin)).act (.robotsRequest origin) with
      lockHolder := some task } := by
  -- Nobody holds the lock, so nobody waits for any rules.
  have nobody : ∀ other site, state.phase other ≠ .fetchingRobots site := by
    intro other site waits
    obtain ⟨_, locked, _⟩ := holds.standing waits
    cases free.symm.trans locked
  -- The rules of the site were never requested.
  have fresh : FetchAction.robotsRequest origin ∉ state.log := by
    intro member
    rcases holds.requested origin member with kept | ⟨other, waits⟩
    · exact kept missing
    · exact nobody other origin waits
  refine ⟨?_, ?_, ?_, ?_, ?_, ?_, ?_⟩
  · refine phases_move (fun other _ => ?_) ⟨site, rfl, missing⟩
    exact (holds.phases other).mono (fun _ _ held => held) fun site waits =>
      absurd waits (nobody other site)
  · intro site rules
    exact (holds.stored site rules).trans (by simp [FetchState.act, FetchState.move])
  · intro site
    exact countP_concat_le_one (holds.storedOnce site) (by simp [FetchAction.isRulesStored])
  · intro site
    refine countP_concat_le_one (holds.requestedOnce site) fun same other member => ?_
    obtain rfl : origin = site := by simpa [FetchAction.isRobotsRequest] using same
    cases other with
    | robotsRequest another =>
      have different : another ≠ origin := fun equal => fresh (equal ▸ member)
      simpa [FetchAction.isRobotsRequest] using different
    | _ => rfl
  · intro site member
    rcases List.mem_append.mp member with earlier | last
    · rcases holds.requested site earlier with kept | ⟨other, waits⟩
      · exact .inl kept
      · exact absurd waits (nobody other site)
    · obtain rfl : site = origin := by simpa using last
      exact .inr ⟨task, FetchState.phase_move⟩
  · -- No page is requested by this step.
    intro front other ahead
    exact holds.pages front other (prefix_of_prefix_concat ahead (by simp))
  · intro other body member
    exact holds.written other body (by simpa [FetchState.act, FetchState.move] using member)

/-- A call that got the rules it waited for keeps them and releases the lock. -/
theorem storeRules (holds : tasks.Disciplined state)
    (waits : state.phase task = .fetchingRobots origin) (reply : RobotsReply) :
    tasks.Disciplined (tasks.storeRules state task origin reply) := by
  obtain ⟨site, locked, missing⟩ := holds.standing waits
  -- Rules that were kept for another site stay, and this site had none.
  have kept : ∀ other rules, state.robots other = some rules →
      (tasks.storeRules state task origin reply).robots other = some rules := by
    intro other rules held
    have different : other ≠ origin := by
      rintro rfl
      cases missing.symm.trans held
    exact (Function.update_of_ne different _ _).trans held
  -- Only the holder of the lock waits for rules.
  have only : ∀ other another, state.phase other = .fetchingRobots another → other = task := by
    intro other another alsoWaits
    obtain ⟨_, alsoLocked, _⟩ := holds.standing alsoWaits
    exact Option.some.inj (alsoLocked.symm.trans locked)
  refine ⟨?_, ?_, ?_, ?_, ?_, ?_, ?_⟩
  · refine phases_move (fun other different => ?_) ⟨origin, site, Function.update_self _ _ _⟩
    exact (holds.phases other).mono kept fun another alsoWaits =>
      absurd (only other another alsoWaits) different
  · intro other rules
    change Function.update state.robots origin _ other = some rules ↔ _ ∈ state.log ++ [_]
    rw [List.mem_append, ← holds.stored other rules]
    by_cases same : other = origin
    · subst same
      simp [missing, eq_comm]
    · simp [same]
  · intro other
    refine countP_concat_le_one (holds.storedOnce other) fun same action member => ?_
    obtain rfl : origin = other := by simpa [FetchAction.isRulesStored] using same
    cases action with
    | rulesStored another rules =>
      have different : another ≠ origin := by
        rintro rfl
        cases missing.symm.trans ((holds.stored another rules).mpr member)
      simpa [FetchAction.isRulesStored] using different
    | _ => rfl
  · intro other
    exact countP_concat_le_one (holds.requestedOnce other) (by simp [FetchAction.isRobotsRequest])
  · intro other member
    by_cases same : other = origin
    · subst same
      exact .inl (by simp [FetchTasks.storeRules])
    · have earlier : FetchAction.robotsRequest other ∈ state.log := by
        simpa [FetchTasks.storeRules, FetchState.act, FetchState.move] using member
      rcases holds.requested other earlier with known | ⟨holder, alsoWaits⟩
      · obtain ⟨rules, held⟩ := Option.ne_none_iff_exists'.mp known
        exact .inl (by rw [kept other rules held]; simp)
      · obtain rfl := only holder other alsoWaits
        cases waits.symm.trans alsoWaits
        exact absurd rfl same
  · -- The log of the page requests is what it was.
    intro front other ahead
    exact holds.pages front other (prefix_of_prefix_concat ahead (by simp))
  · intro other body member
    have earlier : FetchAction.cacheWritten other body ∈ state.log := by
      simpa [FetchTasks.storeRules, FetchState.act, FetchState.move] using member
    exact (holds.written other body earlier).mono kept

/-- A call that is ended by the reply to its request leaves everything as it should be. -/
theorem receive (holds : tasks.Disciplined state) (waits : state.phase task = .requesting)
    (reply : PageReply) : tasks.Disciplined (tasks.receive state task reply) := by
  -- The semaphore is released first, then the body is cached.
  have allowed := holds.standing waits
  have ready : ∀ origin, state.phase task ≠ .fetchingRobots origin := by
    intro origin also
    cases waits.symm.trans also
  have released := holds.release state.cache (state.permits + 1)
  cases reply with
  | body text =>
    have moved : tasks.Disciplined
        (FetchState.move { state with permits := state.permits + 1 } task (.finished (.ok text))) :=
      released.move ready (.inr (.inl allowed))
    exact (moved.writeCache allowed text).release _ _
  | httpError cause => exact released.move ready (.inr (.inl allowed))
  | otherError => exact released.move ready (.inr (.inl allowed))

/-- Every step of a call keeps what holds between any two steps. -/
theorem step (respects : tasks.fetcher.respectRobots = true) (holds : tasks.Disciplined state)
    {event : FetchEvent Task} (moved : tasks.step state event = some next) :
    tasks.Disciplined next := by
  -- A call in another phase than the one it waits in is not waiting for rules.
  have elsewhere : ∀ {task phase}, state.phase task = phase →
      (∀ origin, phase ≠ .fetchingRobots origin) →
        ∀ origin, state.phase task ≠ .fetchingRobots origin := by
    intro task phase same different origin waits
    exact different origin (same.symm.trans waits)
  cases moves_of_step moved with
  | answered idle result => exact holds.move (elsewhere idle fun origin => by simp) trivial
  | live idle =>
    exact holds.move (elsewhere idle fun origin => by simp) (phaseOk_beginLive respects)
  | reread seeks held =>
    exact holds.move (elsewhere seeks fun origin => by simp) ⟨_, holds.standing seeks, held⟩
  | robotsRequested seeks free missing =>
    exact holds.requestRules free missing (holds.standing seeks)
  | rulesStored waits reply => exact holds.storeRules waits reply
  | decided known =>
    have ok := phaseOk_decision (holds.standing known)
    exact holds.move (elsewhere known fun origin => by simp) ok
  | acquired queued permits =>
    -- The verdict of a queued call stays its verdict until its request.
    have allowed := holds.standing queued
    have slept : tasks.Disciplined (state.move _ .sleeping) :=
      holds.move (elsewhere queued fun origin => by simp) allowed
    exact slept.release state.cache permits
  | sent sleeping =>
    have allowed := holds.standing sleeping
    have moved : tasks.Disciplined (state.move _ .requesting) :=
      holds.move (elsewhere sleeping fun origin => by simp) allowed
    exact moved.requestPage allowed
  | received waits reply => exact holds.receive waits reply

end FetchTasks.Disciplined

/-- A step only adds to the log, and changes the cache as it adds. -/
theorem FetchTasks.step_log {event : FetchEvent Task} (moved : tasks.step state event = some next) :
    ∃ done, next.log = state.log ++ done ∧ next.cache = tasks.cacheAfterLog state.cache done := by
  -- Only four of the moves write to the log, and one of these writes to the cache.
  have silent : next.log = state.log → next.cache = state.cache →
      ∃ done, next.log = state.log ++ done ∧
        next.cache = tasks.cacheAfterLog state.cache done := by
    intro sameLog sameCache
    exact ⟨[], by simpa using sameLog, sameCache⟩
  cases moves_of_step moved with
  | answered | live | reread | decided | acquired => exact silent rfl rfl
  | robotsRequested | rulesStored | sent => exact ⟨_, rfl, rfl⟩
  | received waits reply =>
    cases reply with
    | body text => exact ⟨_, rfl, rfl⟩
    | httpError cause => exact silent rfl rfl
    | otherError => exact silent rfl rfl

/-- Everything is as it should be, and the cache is what the log says was written. -/
def FetchTasks.Accounted (tasks : FetchTasks Task Rules) (start : CacheDir)
    (state : FetchState Task Rules) : Prop :=
  -- What is in the cache is what the log says was written.
  tasks.Disciplined state ∧ state.cache = tasks.cacheAfterLog start state.log

/-- Every step of a call keeps the account. -/
theorem FetchTasks.Accounted.step (respects : tasks.fetcher.respectRobots = true)
    {start : CacheDir} (holds : tasks.Accounted start state) {event : FetchEvent Task}
    (moved : tasks.step state event = some next) : tasks.Accounted start next := by
  -- The log of the step is applied to the cache behind the log so far.
  obtain ⟨disciplined, same⟩ := holds
  obtain ⟨done, log, cached⟩ := tasks.step_log moved
  refine ⟨disciplined.step respects moved, ?_⟩
  rw [cached, log, same, FetchTasks.cacheAfterLog, FetchTasks.cacheAfterLog,
    FetchTasks.cacheAfterLog, List.foldl_append]

/-- Every run of the calls of a new fetcher keeps the account. -/
theorem FetchTasks.accounted_of_run (respects : tasks.fetcher.respectRobots = true)
    {cache : CacheDir} {maxConcurrency : Nat} {events : List (FetchEvent Task)}
    {final : FetchState Task Rules}
    (ran : run tasks.step (.initial cache maxConcurrency) events = some final) :
    tasks.Accounted cache final := by
  -- The account holds at the start, and every step keeps it.
  have begun : tasks.Accounted cache (.initial cache maxConcurrency) :=
    ⟨FetchTasks.Disciplined.initial cache maxConcurrency, rfl⟩
  exact kept_of_run (fun _ _ _ holds moved => holds.step respects moved) begun ran

/-- In every run of the calls the rules of each site are asked for once, and obeyed. -/
theorem robots_discipline (tasks : FetchTasks Task Rules)
    (respects : tasks.fetcher.respectRobots = true) (cache : CacheDir) (maxConcurrency : Nat)
    (events : List (FetchEvent Task)) (final : FetchState Task Rules)
    (ran : run tasks.step (.initial cache maxConcurrency) events = some final) :
    (∀ origin, final.log.countP (FetchAction.isRobotsRequest origin) ≤ 1 ∧
      final.log.countP (FetchAction.isRulesStored origin) ≤ 1) ∧
    (∀ front url, front ++ [FetchAction.pageRequest url] <+: final.log →
      ∃ origin rules, tasks.robotsLibrary.originOf url = some origin ∧
        FetchAction.rulesStored origin rules ∈ front ∧
        tasks.robotsLibrary.canFetch rules url = some true) ∧
    final.cache = tasks.cacheAfterLog cache final.log ∧
    ∀ url, tasks.Verdict final url (some false) →
      FetchAction.pageRequest url ∉ final.log ∧
      (∀ body, FetchAction.cacheWritten url body ∉ final.log) ∧
      ∀ task, tasks.url task = url → tasks.Refused url (final.phase task) := by
  -- All of it is read off the invariant; a refused URL would have been allowed otherwise.
  obtain ⟨holds, cached⟩ := FetchTasks.accounted_of_run respects ran
  refine ⟨fun origin => ⟨holds.requestedOnce origin, holds.storedOnce origin⟩, holds.pages, cached,
    fun url refused => ⟨?_, ?_, ?_⟩⟩
  · intro member
    obtain ⟨front, back, split⟩ := List.append_of_mem member
    -- A page request is only logged behind an allowing rule.
    have ahead : front ++ [FetchAction.pageRequest url] <+: final.log := ⟨back, by simp [split]⟩
    obtain ⟨origin, rules, site, earlier, allowed⟩ := holds.pages front url ahead
    have stored : FetchAction.rulesStored origin rules ∈ final.log := by
      rw [split]
      exact List.mem_append_left _ earlier
    -- The rules are stored once, so the verdict is the same.
    have verdict : tasks.Verdict final url (some true) :=
      ⟨origin, rules, site, (holds.stored origin rules).mpr stored, allowed⟩
    cases refused.unique verdict
  · intro body member
    cases refused.unique (holds.written url body member)
  · intro task same
    subst same
    exact FetchTasks.refused_of_phaseOk refused (holds.phases task)

/-- The rules of one site: the paths that are not to be fetched. -/
def sramRobots : RobotsLibrary (List String) where
  originOf _ := some "https://docs.sram.com"
  parse lines := lines.filterMap fun line =>
    let directive := "Disallow: ".toList
    if directive.isPrefixOf line.toList then
      some (String.ofList (line.toList.drop directive.length))
    else none
  -- A URL is refused when it lies below a disallowed path.
  canFetch paths url :=
    some (paths.all fun path => !("https://docs.sram.com" ++ path).toList.isPrefixOf url.toList)

/-- Two calls of one site, of which the first is for a page its rules refuse. -/
def twoCalls : FetchTasks Bool (List String) where
  fetcher := {}
  library := { numericInterpreter [] with sha256Hex := id, unescape := id, repr := id }
  robotsLibrary := sramRobots
  -- One of the two pages is behind a path that the rules refuse.
  url second :=
    if second then "https://docs.sram.com/pike" else "https://docs.sram.com/private/pike"

/-- Both calls miss the rules before the first of them has got any. -/
def twoCallEvents : List (FetchEvent Bool) :=
  [.start false, .start true, .enterLock false,
    .robotsReply false (.response 200 "User-agent: *\nDisallow: /private"), .enterLock true,
    .decide true, .decide false, .acquire true, .send true, .pageReply true (.body "Pike")]

/-- The rules are asked for once, and the refused page never is. -/
theorem robots_discipline_twoCalls :
    ∃ final, run twoCalls.step (.initial .empty 4) twoCallEvents = some final ∧
      final.log.countP (FetchAction.isRobotsRequest "https://docs.sram.com") ≤ 1 ∧
      FetchAction.pageRequest "https://docs.sram.com/private/pike" ∉ final.log ∧
      twoCalls.Refused "https://docs.sram.com/private/pike" (final.phase false) := by
  -- The run is evaluated once, for the rules it ends with.
  have kept : (run twoCalls.step (.initial .empty 4) twoCallEvents).bind
      (fun final => final.robots "https://docs.sram.com") = some ["/private"] := by
    decide +kernel
  obtain ⟨final, ran, held⟩ := Option.bind_eq_some_iff.mp kept
  obtain ⟨once, _, _, obeyed⟩ := robots_discipline twoCalls rfl .empty 4 twoCallEvents final ran
  have refused : twoCalls.Verdict final "https://docs.sram.com/private/pike" (some false) :=
    ⟨"https://docs.sram.com", ["/private"], rfl, held, by decide +kernel⟩
  obtain ⟨unasked, _, stopped⟩ := obeyed _ refused
  exact ⟨final, ran, (once _).1, unasked, stopped false rfl⟩

end TorqueFinder
