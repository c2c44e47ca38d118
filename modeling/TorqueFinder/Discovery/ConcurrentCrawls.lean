import TorqueFinder.Discovery.RegistryHistory
import TorqueFinder.Lib.Precedence
import TorqueFinder.Lib.Transition

/-! Two discovery processes that upsert one publication, each in a session of its own. -/

namespace TorqueFinder

open Ranking Transition

/-- One of the two discovery processes. -/
inductive CrawlProcess where
  | left
  | right
  deriving DecidableEq

/-- The process that is not this one. -/
def CrawlProcess.other : CrawlProcess → CrawlProcess
  | .left => .right
  | .right => .left

/-- What a process upserts: the publication, the models that mention it, and when. -/
structure PassedUpsert where
  pub : DiscoveredPublication
  referencedByModels : List String
  now : Nat

/-- The statements of the two sessions. -/
inductive SessionEvent where
  /-- The upsert selects the row. -/
  | read (process : CrawlProcess)
  /-- The upsert flushes its update of the row. -/
  | write (process : CrawlProcess)
  /-- The crawl commits. -/
  | commit (process : CrawlProcess)
  deriving DecidableEq

/-- The process whose session a statement is made in. -/
def SessionEvent.process : SessionEvent → CrawlProcess
  | .read process => process
  | .write process => process
  | .commit process => process

/-- How far a session is with the row. -/
inductive SessionPhase where
  | idle
  /-- The row was read as it was committed then. -/
  | loaded (before : RegisteredPublication)
  /-- The changed row was flushed. -/
  | flushed (before after : RegisteredPublication)
  | committed
  deriving DecidableEq

/-- The committed row, and what the two sessions hold. -/
structure RowState where
  row : RegisteredPublication
  phase : CrawlProcess → SessionPhase

/-- A column after an update that names the column only when its value changed. -/
def updatedColumn {α : Type} [DecidableEq α] (before after current : α) : α :=
  if after = before then current else after

/-- The row after the update of a session, which always names the models if told to. -/
def updatedRow (namesModels : Bool) (before after current : RegisteredPublication) :
    RegisteredPublication where
  pubId := updatedColumn before.pubId after.pubId current.pubId
  pubType := updatedColumn before.pubType after.pubType current.pubType
  title := updatedColumn before.title after.title current.title
  locale := updatedColumn before.locale after.locale current.locale
  sourceUrl := updatedColumn before.sourceUrl after.sourceUrl current.sourceUrl
  series := updatedColumn before.series after.series current.series
  models := updatedColumn before.models after.models current.models
  procedures := updatedColumn before.procedures after.procedures current.procedures
  -- Only this column may be named whether or not the session has changed it.
  referencedByModels :=
    if namesModels then after.referencedByModels
    else updatedColumn before.referencedByModels after.referencedByModels
      current.referencedByModels
  contentHash := updatedColumn before.contentHash after.contentHash current.contentHash
  status := updatedColumn before.status after.status current.status
  discoveredAt := updatedColumn before.discoveredAt after.discoveredAt current.discoveredAt
  lastSeenAt := updatedColumn before.lastSeenAt after.lastSeenAt current.lastSeenAt

/-- A session in its next phase. -/
def RowState.moved (state : RowState) (process : CrawlProcess) (phase : SessionPhase) : RowState :=
  { state with phase := fun session => if session = process then phase else state.phase session }

/-- The state after a statement of a session, when its turn has come. -/
def sessionStep (namesModels : Bool) (passed : CrawlProcess → PassedUpsert) (state : RowState) :
    SessionEvent → Option RowState
  | .read process =>
    match state.phase process with
    | .idle => some (state.moved process (.loaded state.row))
    | _ => none
  | .write process =>
    -- A write that waits for the other session's row lock comes after that session's commit.
    match state.phase process with
    | .loaded before =>
      -- The union is computed from the row as it was read.
      let upsert := passed process
      let after := Registry.seen upsert.pub upsert.referencedByModels upsert.now before
      some (state.moved process (.flushed before after))
    | _ => none
  | .commit process =>
    match state.phase process with
    | .flushed before after =>
      some { state.moved process .committed with
        row := updatedRow namesModels before after state.row }
    | _ => none

/-- Both sessions are about to read the row. -/
def RowState.start (row : RegisteredPublication) : RowState where
  -- Neither session has read anything.
  row := row
  phase _ := .idle

/-- The committed row has the models that were recorded before and those both sessions passed. -/
def NothingLost (row : RegisteredPublication) (passed : CrawlProcess → PassedUpsert)
    (final : RowState) : Prop :=
  -- Every model that was there or was passed is there in the end.
  ∀ model, model ∈ row.referencedByModels ∨
      (∃ process, model ∈ (passed process).referencedByModels) →
    model ∈ final.row.referencedByModels

section Rows

variable {namesModels : Bool} {passed : CrawlProcess → PassedUpsert}
  {row before current : RegisteredPublication} {process : CrawlProcess} {model : String}

/-- The row a session leaves when it read one row and updates another. -/
def rowLeft (namesModels : Bool) (passed : CrawlProcess → PassedUpsert) (process : CrawlProcess)
    (before current : RegisteredPublication) : RegisteredPublication :=
  -- The session computes its values from the row it read, not from the current one.
  let upsert := passed process
  updatedRow namesModels before
    (Registry.seen upsert.pub upsert.referencedByModels upsert.now before) current

/-- A column that was read as it still is ends up as it was written. -/
theorem updatedColumn_self {α : Type} [DecidableEq α] (before after : α) :
    updatedColumn before after before = after := by
  -- A column that is left out has the value it was read with.
  unfold updatedColumn
  split
  · rename_i same
    exact same.symm
  · rfl

/-- A session that updates the row it read leaves the row of an upsert. -/
theorem rowLeft_self (namesModels : Bool) (passed : CrawlProcess → PassedUpsert)
    (process : CrawlProcess) (row : RegisteredPublication) :
    rowLeft namesModels passed process row row =
      Registry.seen (passed process).pub (passed process).referencedByModels
        (passed process).now row := by
  -- A row that nobody else has changed takes over every value.
  simp only [rowLeft, updatedRow, updatedColumn_self, ite_self]

/-- An uninterrupted session leaves the row that an upsert leaves. -/
theorem row_of_uninterrupted {registry : Registry}
    (found : registry.getRow (passed process).pub.pubId = some row) :
    (run (sessionStep namesModels passed) (.start row)
        [.read process, .write process, .commit process]).map RowState.row =
      (registry.upsert (passed process).pub (passed process).referencedByModels
        (passed process).now).1.getRow (passed process).pub.pubId := by
  -- The session updates the row that it read.
  have left := rowLeft_self namesModels passed process row
  rw [Registry.getRow_upsert, found, Option.elim_some, ← left]
  simp [run, sessionStep, RowState.start, RowState.moved, rowLeft]

/-- The update leaves the models out. -/
def OmitsModels (namesModels : Bool) (passed : CrawlProcess → PassedUpsert)
    (process : CrawlProcess) (before : RegisteredPublication) : Prop :=
  -- The set of models is what it was, so the session has no change to write.
  namesModels = false ∧
    sortedSet (before.referencedByModels ++ (passed process).referencedByModels) =
      before.referencedByModels

/-- The models of the row a session leaves are the union it computed, unless it left them out. -/
theorem rowLeft_models :
    (OmitsModels namesModels passed process before ∧
        (rowLeft namesModels passed process before current).referencedByModels =
          current.referencedByModels) ∨
      ¬OmitsModels namesModels passed process before ∧
        (rowLeft namesModels passed process before current).referencedByModels =
          sortedSet (before.referencedByModels ++ (passed process).referencedByModels) := by
  -- Only an unchanged list may be left out.
  have union := (Registry.seen_touched (passed process).pub (passed process).referencedByModels
    (passed process).now before).1
  unfold rowLeft updatedRow OmitsModels
  dsimp only
  rw [union]
  cases namesModels with
  | true => exact Or.inr ⟨by simp, rfl⟩
  | false =>
    by_cases same : sortedSet (before.referencedByModels ++ (passed process).referencedByModels) =
        before.referencedByModels
    · exact Or.inl ⟨⟨rfl, same⟩, if_pos same⟩
    · exact Or.inr ⟨fun omitted => same omitted.2, if_neg same⟩

/-- A session that leaves the models out passed none that were missing. -/
theorem mem_of_omitsModels (omits : OmitsModels namesModels passed process before)
    (passedModel : model ∈ (passed process).referencedByModels) :
    model ∈ before.referencedByModels := by
  -- A model that is passed is in the merged set, which is the old one.
  rw [← omits.2, mem_sortedSet]
  exact List.mem_append_right _ passedModel

/-- An upsert on the row that was read records the models there were and those that were passed. -/
theorem mem_rowLeft_self :
    model ∈ (rowLeft namesModels passed process row row).referencedByModels ↔
      model ∈ row.referencedByModels ∨ model ∈ (passed process).referencedByModels := by
  -- On an unchanged row the models of the session join the others.
  rw [rowLeft_self, (Registry.seen_touched _ _ _ _).1, mem_sortedSet, List.mem_append]

end Rows

section Runs

variable (namesModels : Bool) (passed : CrawlProcess → PassedUpsert) (row : RegisteredPublication)

/-- The row a process reads: the other one's if that is committed by then, and else the old one. -/
def rowSeen (past : List SessionEvent) (process : CrawlProcess) : RegisteredPublication :=
  -- The commit of the other session is only seen by a later read.
  if Precedes past (.commit process.other) (.read process) then
    rowLeft namesModels passed process.other row row
  else row

/-- How far a session is after some statements. -/
def phaseAfter (past : List SessionEvent) (process : CrawlProcess) : SessionPhase :=
  let before := rowSeen namesModels passed row past process
  let upsert := passed process
  -- The furthest event of the process tells its phase.
  if .commit process ∈ past then .committed
  else if .write process ∈ past then
    .flushed before (Registry.seen upsert.pub upsert.referencedByModels upsert.now before)
  else if .read process ∈ past then .loaded before
  else .idle

/-- What the statements so far say about the sessions and the committed row. -/
structure Explained (past : List SessionEvent) (state : RowState) : Prop where
  phase : ∀ process, state.phase process = phaseAfter namesModels passed row past process
  row_of_none : (∀ process, .commit process ∉ past) → state.row = row
  row_of_one : ∀ process, .commit process ∈ past → .commit process.other ∉ past →
    state.row = rowLeft namesModels passed process row row
  row_of_both : ∀ process, Precedes past (.commit process.other) (.commit process) →
    state.row = rowLeft namesModels passed process (rowSeen namesModels passed row past process)
      (rowLeft namesModels passed process.other row row)

variable {namesModels passed row} {past : List SessionEvent} {state : RowState}
  {process session : CrawlProcess} {before after : RegisteredPublication} {event : SessionEvent}

/-- There are two processes. -/
theorem CrawlProcess.eq_or_eq_other (process session : CrawlProcess) :
    process = session ∨ process.other = session := by
  cases process <;> cases session <;> decide

/-- The other process of the other one is the process itself. -/
@[simp] theorem CrawlProcess.other_other (process : CrawlProcess) :
    process.other.other = process := by
  cases process <;> rfl

section Phases

/-- What a process reads is not changed by a later statement other than that. -/
theorem rowSeen_concat (other : event ≠ .read process) :
    rowSeen namesModels passed row (past ++ [event]) process =
      rowSeen namesModels passed row past process := by
  -- The order of the two statements was decided before.
  have kept : Precedes (past ++ [event]) (.commit process.other) (.read process) ↔
      Precedes past (.commit process.other) (.read process) := by
    rw [precedes_concat]
    exact or_iff_left fun last => other last.2.symm
  simp only [rowSeen, kept]

/-- A session is not moved by the other one. -/
theorem phaseAfter_concat (other : event.process ≠ process) :
    phaseAfter namesModels passed row (past ++ [event]) process =
      phaseAfter namesModels passed row past process := by
  -- None of the statements of the session is the new one.
  have reads : event ≠ .read process := fun same => other (congrArg SessionEvent.process same)
  have writes : event ≠ .write process := fun same => other (congrArg SessionEvent.process same)
  have commits : event ≠ .commit process := fun same => other (congrArg SessionEvent.process same)
  simp only [phaseAfter, rowSeen_concat reads, List.mem_append, List.mem_singleton, reads.symm,
    writes.symm, commits.symm, or_false]

/-- A session is where the furthest of its statements left it. -/
private theorem phaseAfter_cases (namesModels : Bool) (passed : CrawlProcess → PassedUpsert)
    (row : RegisteredPublication) (past : List SessionEvent) (process : CrawlProcess) :
    (.commit process ∈ past ∧ phaseAfter namesModels passed row past process = .committed) ∨
    (.commit process ∉ past ∧ .write process ∈ past ∧
      phaseAfter namesModels passed row past process =
        .flushed (rowSeen namesModels passed row past process)
          (Registry.seen (passed process).pub (passed process).referencedByModels
            (passed process).now (rowSeen namesModels passed row past process))) ∨
    (.commit process ∉ past ∧ .write process ∉ past ∧ .read process ∈ past ∧
      phaseAfter namesModels passed row past process =
        .loaded (rowSeen namesModels passed row past process)) ∨
    (.commit process ∉ past ∧ .write process ∉ past ∧ .read process ∉ past ∧
      phaseAfter namesModels passed row past process = .idle) := by
  -- The statements are looked for from the last one a session makes to the first.
  by_cases committed : .commit process ∈ past
  · exact .inl ⟨committed, if_pos committed⟩
  · by_cases written : .write process ∈ past
    · exact .inr (.inl ⟨committed, written, by simp [phaseAfter, committed, written]⟩)
    · by_cases read : .read process ∈ past
      · exact .inr (.inr (.inl
          ⟨committed, written, read, by simp [phaseAfter, committed, written, read]⟩))
      · exact .inr (.inr (.inr
          ⟨committed, written, read, by simp [phaseAfter, committed, written, read]⟩))

/-- An idle session has made no statement. -/
theorem phaseAfter_idle (idle : phaseAfter namesModels passed row past process = .idle) :
    .read process ∉ past ∧ .write process ∉ past ∧ .commit process ∉ past := by
  -- Any statement of the session would have moved it.
  rcases phaseAfter_cases namesModels passed row past process with
    ⟨_, phase⟩ | ⟨_, _, phase⟩ | ⟨_, _, _, phase⟩ | ⟨uncommitted, unwritten, unread, _⟩
  · cases phase.symm.trans idle
  · cases phase.symm.trans idle
  · cases phase.symm.trans idle
  · exact ⟨unread, unwritten, uncommitted⟩

/-- A session that has only read holds the row as it read it. -/
theorem phaseAfter_loaded
    (loaded : phaseAfter namesModels passed row past process = .loaded before) :
    (.write process ∉ past ∧ .commit process ∉ past) ∧
      before = rowSeen namesModels passed row past process := by
  -- A write or a commit would have moved the session on.
  rcases phaseAfter_cases namesModels passed row past process with
    ⟨_, phase⟩ | ⟨_, _, phase⟩ | ⟨uncommitted, unwritten, _, phase⟩ | ⟨_, _, _, phase⟩
  · cases phase.symm.trans loaded
  · cases phase.symm.trans loaded
  · cases phase.symm.trans loaded
    exact ⟨⟨unwritten, uncommitted⟩, rfl⟩
  · cases phase.symm.trans loaded

/-- A session that has written holds the row as it read it and as it changed it. -/
theorem phaseAfter_flushed
    (flushed : phaseAfter namesModels passed row past process = .flushed before after) :
    .commit process ∉ past ∧ before = rowSeen namesModels passed row past process ∧
      after = Registry.seen (passed process).pub (passed process).referencedByModels
        (passed process).now before := by
  -- A commit would have moved the session on.
  rcases phaseAfter_cases namesModels passed row past process with
    ⟨_, phase⟩ | ⟨uncommitted, _, phase⟩ | ⟨_, _, _, phase⟩ | ⟨_, _, _, phase⟩
  · cases phase.symm.trans flushed
  · cases phase.symm.trans flushed
    exact ⟨uncommitted, rfl, rfl⟩
  · cases phase.symm.trans flushed
  · cases phase.symm.trans flushed

/-- A session that is done has committed. -/
theorem phaseAfter_committed
    (done : phaseAfter namesModels passed row past process = .committed) :
    .commit process ∈ past := by
  -- Without the commit the session would stand somewhere before it.
  rcases phaseAfter_cases namesModels passed row past process with
    ⟨committed, _⟩ | ⟨_, _, phase⟩ | ⟨_, _, _, phase⟩ | ⟨_, _, _, phase⟩
  · exact committed
  · cases phase.symm.trans done
  · cases phase.symm.trans done
  · cases phase.symm.trans done

end Phases

section Steps

variable (explained : Explained namesModels passed row past state)

include explained

/-- Moving one session to the phase that follows from its statements explains the phases. -/
theorem Explained.phase_moved {phase : SessionPhase} (made : event.process = process)
    (follows : phaseAfter namesModels passed row (past ++ [event]) process = phase) :
    ∀ session, (state.moved process phase).phase session =
      phaseAfter namesModels passed row (past ++ [event]) session := by
  -- The other session stays where it is.
  intro session
  by_cases same : session = process
  · subst same
    exact (if_pos rfl).trans follows.symm
  · rw [phaseAfter_concat (made ▸ Ne.symm same), ← explained.phase]
    exact if_neg same

/-- A process that reads sees the row that is committed. -/
theorem Explained.rowSeen_of_read (unread : .read process ∉ past)
    (uncommitted : .commit process ∉ past) :
    rowSeen namesModels passed row (past ++ [.read process]) process = state.row := by
  -- The row is committed by the other session or by none.
  have seen : Precedes (past ++ [.read process]) (.commit process.other) (.read process) ↔
      .commit process.other ∈ past := by
    rw [precedes_concat]
    constructor
    · intro preceding
      rcases preceding with earlier | last
      · exact absurd earlier.right_mem unread
      · exact last.1
    · intro member
      exact Or.inr ⟨member, rfl⟩
  unfold rowSeen
  by_cases member : .commit process.other ∈ past
  · rw [if_pos (seen.mpr member)]
    refine (explained.row_of_one process.other member ?_).symm
    rwa [CrawlProcess.other_other]
  · rw [if_neg fun preceding => member (seen.mp preceding)]
    refine (explained.row_of_none fun session => ?_).symm
    rcases CrawlProcess.eq_or_eq_other process session with rfl | rfl
    · exact uncommitted
    · exact member

/-- A statement that is no commit leaves the committed row explained. -/
theorem Explained.of_not_commit {next : RowState} (kept : next.row = state.row)
    (phases : ∀ session, next.phase session =
      phaseAfter namesModels passed row (past ++ [event]) session)
    (noCommit : ∀ session, event ≠ .commit session)
    (noRead : .commit event.process ∈ past → event ≠ .read event.process) :
    Explained namesModels passed row (past ++ [event]) next := by
  have members : ∀ session, .commit session ∈ past ++ [event] ↔ .commit session ∈ past := by
    intro session
    simp only [List.mem_append, List.mem_singleton, (noCommit session).symm, or_false]
  refine ⟨phases, ?_, ?_, ?_⟩
  · intro uncommitted
    simp only [members] at uncommitted
    exact kept.trans (explained.row_of_none uncommitted)
  · intro session committed uncommitted
    simp only [members] at committed uncommitted
    exact kept.trans (explained.row_of_one session committed uncommitted)
  · intro session preceding
    rw [precedes_concat, or_iff_left fun last => noCommit session last.2.symm] at preceding
    -- A process that has committed does not read again.
    have read : event ≠ .read session := by
      intro same
      have process : event.process = session := congrArg SessionEvent.process same
      rw [← process] at preceding same
      exact noRead preceding.right_mem same
    rw [rowSeen_concat read]
    exact kept.trans (explained.row_of_both session preceding)

/-- A commit publishes the update, on what the other process has committed by then. -/
theorem Explained.of_commit {next : RowState} (uncommitted : .commit process ∉ past)
    (phases : ∀ session, next.phase session =
      phaseAfter namesModels passed row (past ++ [.commit process]) session)
    (published : next.row = rowLeft namesModels passed process
      (rowSeen namesModels passed row past process) state.row) :
    Explained namesModels passed row (past ++ [.commit process]) next := by
  refine ⟨phases, ?_, ?_, ?_⟩
  · -- The commit itself has happened.
    intro none
    exact absurd (List.mem_append_right _ (List.mem_singleton_self _)) (none process)
  · intro session committed others
    rw [List.mem_append, List.mem_singleton] at committed others
    rcases CrawlProcess.eq_or_eq_other process session with rfl | rfl
    · -- The other process has not committed, so the row was the old one.
      have alone : .commit process.other ∉ past := fun member => others (Or.inl member)
      have seen : rowSeen namesModels passed row past process = row :=
        if_neg fun preceding => alone preceding.left_mem
      rw [published, seen, explained.row_of_none]
      intro another
      rcases CrawlProcess.eq_or_eq_other process another with rfl | rfl
      · exact uncommitted
      · exact alone
    · rw [CrawlProcess.other_other] at others
      exact absurd (Or.inr rfl) others
  · -- The commit is the later of the two.
    intro session preceding
    rw [rowSeen_concat SessionEvent.noConfusion]
    rcases precedes_concat.mp preceding with earlier | ⟨committed, last⟩
    · rcases CrawlProcess.eq_or_eq_other process session with rfl | rfl
      · exact absurd earlier.right_mem uncommitted
      · rw [CrawlProcess.other_other] at earlier
        exact absurd earlier.left_mem uncommitted
    · cases last
      refine published.trans ?_
      rw [explained.row_of_one process.other committed (by rwa [CrawlProcess.other_other])]

end Steps

/-- A read needs an idle session, a write one that has read, and a commit one that has written. -/
theorem sessionStep_cases {next : RowState}
    (moved : sessionStep namesModels passed state event = some next) :
    (∃ process, event = .read process ∧ state.phase process = .idle ∧
        next = state.moved process (.loaded state.row)) ∨
      (∃ process before, event = .write process ∧ state.phase process = .loaded before ∧
        next = state.moved process (.flushed before (Registry.seen (passed process).pub
          (passed process).referencedByModels (passed process).now before))) ∨
      ∃ process before after, event = .commit process ∧
        state.phase process = .flushed before after ∧
        next = { state.moved process .committed with
          row := updatedRow namesModels before after state.row } := by
  -- In any other phase the statement has to wait for its turn.
  cases event with
  | read process =>
    unfold sessionStep at moved
    dsimp only at moved
    split at moved
    · rename_i idle
      exact Or.inl ⟨process, rfl, idle, (Option.some.inj moved).symm⟩
    · cases moved
  | write process =>
    unfold sessionStep at moved
    dsimp only at moved
    split at moved
    · rename_i before loaded
      exact Or.inr (Or.inl ⟨process, before, rfl, loaded, (Option.some.inj moved).symm⟩)
    · cases moved
  -- The commit writes what differs from the row that was read.
  | commit process =>
    unfold sessionStep at moved
    dsimp only at moved
    split at moved
    · rename_i before after flushed
      exact Or.inr (Or.inr ⟨process, before, after, rfl, flushed, (Option.some.inj moved).symm⟩)
    · cases moved

/-- Every statement keeps the state explained by the statements so far. -/
theorem Explained.step (explained : Explained namesModels passed row past state) {next : RowState}
    (moved : sessionStep namesModels passed state event = some next) :
    Explained namesModels passed row (past ++ [event]) next := by
  -- The phase says what the session has stated before, and with it what it read.
  rcases sessionStep_cases moved with
    ⟨process, rfl, idle, rfl⟩ | ⟨process, before, rfl, loaded, rfl⟩ |
      ⟨process, before, after, rfl, flushed, rfl⟩
  · obtain ⟨unread, unwritten, uncommitted⟩ :=
      phaseAfter_idle ((explained.phase process).symm.trans idle)
    have seen := explained.rowSeen_of_read unread uncommitted
    refine explained.of_not_commit rfl (explained.phase_moved rfl ?_)
      (fun _ => SessionEvent.noConfusion) fun committed => absurd committed uncommitted
    simp [phaseAfter, seen, unwritten, uncommitted]
  · obtain ⟨⟨unwritten, uncommitted⟩, seen⟩ :=
      phaseAfter_loaded ((explained.phase process).symm.trans loaded)
    refine explained.of_not_commit rfl (explained.phase_moved rfl ?_)
      (fun _ => SessionEvent.noConfusion) fun _ => SessionEvent.noConfusion
    simp [phaseAfter, rowSeen_concat, seen, uncommitted]
  · obtain ⟨uncommitted, seen, changed⟩ :=
      phaseAfter_flushed ((explained.phase process).symm.trans flushed)
    refine explained.of_commit uncommitted (explained.phase_moved rfl ?_) ?_
    · simp [phaseAfter]
    · rw [← seen, changed]
      rfl

/-- Nothing has been stated when both sessions are about to read. -/
theorem explained_start : Explained namesModels passed row [] (.start row) where
  -- Nothing has happened, so no row was read or left.
  phase _ := by simp [phaseAfter, RowState.start]
  row_of_none _ := rfl
  row_of_one _ committed := absurd committed List.not_mem_nil
  row_of_both _ preceding := absurd preceding (not_precedes_nil _ _)

/-- Whatever the order of the statements, they explain the state they lead to. -/
theorem explained_of_sessions {events : List SessionEvent} {final : RowState}
    (ran : run (sessionStep namesModels passed) (.start row) events = some final) :
    Explained namesModels passed row events final :=
  -- The start is explained, and every step keeps it so.
  explained_of_run (fun _ _ _ _ explained moved => explained.step moved) explained_start ran

/-- Once both sessions have committed, one of them was the last. -/
theorem Explained.last_commit (explained : Explained namesModels passed row past state)
    (complete : ∀ process, state.phase process = .committed) :
    ∃ process, Precedes past (.commit process.other) (.commit process) := by
  -- Both commits are among the statements, in one order or the other.
  have member : ∀ process, .commit process ∈ past := fun process =>
    phaseAfter_committed ((explained.phase process).symm.trans (complete process))
  have different : SessionEvent.commit .left ≠ .commit .right := by decide
  rcases precedes_total (member .left) (member .right) different with earlier | earlier
  · exact ⟨.right, earlier⟩
  · exact ⟨.left, earlier⟩

variable {model : String}

/-- A session that reads what the other has committed loses nothing. -/
theorem mem_rowLeft_serial :
    model ∈ (rowLeft namesModels passed process (rowLeft namesModels passed process.other row row)
        (rowLeft namesModels passed process.other row row)).referencedByModels ↔
      (model ∈ row.referencedByModels ∨ model ∈ (passed process.other).referencedByModels) ∨
        model ∈ (passed process).referencedByModels := by
  -- The second session starts from what the first one has left.
  rw [mem_rowLeft_self, mem_rowLeft_self]

/-- A session that reads the old row loses what the other added, unless it leaves the models out. -/
theorem mem_rowLeft_stale :
    model ∈ (rowLeft namesModels passed process row
        (rowLeft namesModels passed process.other row row)).referencedByModels ↔
      (model ∈ row.referencedByModels ∨ model ∈ (passed process).referencedByModels) ∨
        OmitsModels namesModels passed process row ∧
          model ∈ (passed process.other).referencedByModels := by
  -- The update overwrites what the other one published, unless it leaves the models out.
  rcases rowLeft_models with ⟨omits, kept⟩ | ⟨names, union⟩
  · rw [kept, mem_rowLeft_self]
    have known : model ∈ (passed process).referencedByModels → model ∈ row.referencedByModels :=
      mem_of_omitsModels omits
    tauto
  · rw [union, mem_sortedSet, List.mem_append]
    tauto

/-- A model is passed by one of the sessions when it is passed by either of them. -/
theorem exists_passed_iff (process : CrawlProcess) :
    (∃ session, model ∈ (passed session).referencedByModels) ↔
      model ∈ (passed process).referencedByModels ∨
        model ∈ (passed process.other).referencedByModels := by
  -- There are only two sessions.
  constructor
  · intro passedModel
    obtain ⟨session, listed⟩ := passedModel
    rcases CrawlProcess.eq_or_eq_other process session with rfl | rfl
    · exact Or.inl listed
    · exact Or.inr listed
  · intro listed
    rcases listed with own | others
    · exact ⟨process, own⟩
    · exact ⟨process.other, others⟩

/-- Whichever session commits last decides what is left. -/
theorem Explained.nothingLost_iff_of_last (explained : Explained namesModels passed row past state)
    (last : Precedes past (.commit process.other) (.commit process)) :
    NothingLost row passed state ↔
      Precedes past (.commit process.other) (.read process) ∨
        OmitsModels namesModels passed process row ∨
        ∀ model ∈ (passed process.other).referencedByModels,
          model ∈ row.referencedByModels ∨ model ∈ (passed process).referencedByModels := by
  -- Either it read what the other one committed, or its union is from the old row.
  unfold NothingLost
  rw [explained.row_of_both process last, rowSeen]
  simp only [exists_passed_iff process]
  by_cases late : Precedes past (.commit process.other) (.read process)
  · rw [if_pos late]
    simp only [mem_rowLeft_serial, late, true_or, iff_true]
    tauto
  · rw [if_neg late]
    simp only [mem_rowLeft_stale, late, false_or]
    by_cases omits : OmitsModels namesModels passed process row
    · simp only [omits, true_and, true_or, iff_true]
      tauto
    · simp only [omits, false_and, or_false, false_or]
      constructor
      · intro kept model listed
        exact kept model (Or.inr (Or.inr listed))
      · intro covered model known
        rcases known with old | own | others
        · exact Or.inl old
        · exact Or.inr own
        · exact covered model others

end Runs

/-- Nothing is lost exactly when the last to commit read late, adds nothing, or knows it all. -/
theorem nothingLost_iff (namesModels : Bool) (passed : CrawlProcess → PassedUpsert)
    (row : RegisteredPublication) {events : List SessionEvent} {final : RowState}
    (ran : run (sessionStep namesModels passed) (.start row) events = some final)
    (complete : ∀ process, final.phase process = .committed) :
    NothingLost row passed final ↔
      ∃ process, Precedes events (.commit process.other) (.commit process) ∧
        (Precedes events (.commit process.other) (.read process) ∨
          OmitsModels namesModels passed process row ∨
          ∀ model ∈ (passed process.other).referencedByModels,
            model ∈ row.referencedByModels ∨ model ∈ (passed process).referencedByModels) := by
  -- One session commits last, and whether it overwrites the other one decides.
  have explained := explained_of_sessions ran
  constructor
  · intro kept
    obtain ⟨process, last⟩ := explained.last_commit complete
    exact ⟨process, last, (explained.nothingLost_iff_of_last last).mp kept⟩
  · intro condition
    obtain ⟨process, last, safe⟩ := condition
    exact (explained.nothingLost_iff_of_last last).mpr safe

/-- The row of a publication that one model page mentions. -/
def brakeRow : RegisteredPublication where
  pubId := "BRAKE1"
  pubType := "UM"
  title := "DB8"
  locale := "en-US"
  sourceUrl := "https://docs.sram.com/en-US/publications/BRAKE1"
  series := []
  models := []
  procedures := []
  referencedByModels := ["db8-a1"]
  contentHash := "0af223f5d10c801dd3a25cd08ffcac3bb2582d050be6ab925d9c4af5f45c9f7f"
  status := .discovered
  discoveredAt := 0
  lastSeenAt := 0

/-- Two crawls that find the publication unchanged, each on the page of another model. -/
def brakeUpserts (process : CrawlProcess) : PassedUpsert where
  pub :=
    { pubId := brakeRow.pubId
      pubType := brakeRow.pubType
      title := brakeRow.title
      locale := brakeRow.locale
      sourceUrl := brakeRow.sourceUrl
      contentHash := brakeRow.contentHash }
  -- The two crawls have found the publication on different model pages.
  referencedByModels := if process = .left then ["db8-b1"] else ["db8-c1"]
  now := 1

/-- One session after the other. -/
def serialEvents : List SessionEvent :=
  [.read .left, .write .left, .commit .left, .read .right, .write .right, .commit .right]

/-- Two sessions that both read the row before either commits. -/
def racingSessions : List SessionEvent :=
  [.read .left, .read .right, .write .left, .commit .left, .write .right, .commit .right]

/-- One session after the other loses nothing. -/
theorem nothingLost_iff_serial :
    ∃ final, run (sessionStep false brakeUpserts) (.start brakeRow) serialEvents = some final ∧
      NothingLost brakeRow brakeUpserts final := by
  -- The run is computed, and its last session reads behind the commit of the other.
  obtain ⟨final, ran⟩ : ∃ final,
      run (sessionStep false brakeUpserts) (.start brakeRow) serialEvents = some final :=
    Option.isSome_iff_exists.mp (by decide +kernel)
  have phases : (run (sessionStep false brakeUpserts) (.start brakeRow) serialEvents).map
      (fun state => (state.phase .left, state.phase .right)) = some (.committed, .committed) := by
    decide +kernel
  rw [ran] at phases
  obtain ⟨left, right⟩ := Prod.mk.inj (Option.some.inj phases)
  have complete : ∀ process, final.phase process = .committed := by
    intro process
    cases process with
    | left => exact left
    | right => exact right
  have late : Precedes serialEvents (.commit .left) (.read .right) := by decide
  refine ⟨final, ran, (nothingLost_iff false brakeUpserts brakeRow ran complete).mpr ?_⟩
  exact ⟨.right, by decide, Or.inl late⟩

/-- The model that the first crawl to commit added is gone after the second one commits. -/
theorem not_nothingLost :
    ∃ final, run (sessionStep false brakeUpserts) (.start brakeRow) racingSessions = some final ∧
      (∀ process, final.phase process = .committed) ∧
        ¬NothingLost brakeRow brakeUpserts final := by
  -- The run is computed, and its last session overwrites the union of the other.
  obtain ⟨final, ran⟩ : ∃ final,
      run (sessionStep false brakeUpserts) (.start brakeRow) racingSessions = some final :=
    Option.isSome_iff_exists.mp (by decide +kernel)
  have outcome : (run (sessionStep false brakeUpserts) (.start brakeRow) racingSessions).map
      (fun state => ((state.phase .left, state.phase .right), state.row.referencedByModels)) =
        some ((.committed, .committed), ["db8-a1", "db8-c1"]) := by
    decide +kernel
  rw [ran] at outcome
  obtain ⟨phases, models⟩ := Prod.mk.inj (Option.some.inj outcome)
  obtain ⟨left, right⟩ := Prod.mk.inj phases
  refine ⟨final, ran, ?_, ?_⟩
  · intro process
    cases process with
    | left => exact left
    | right => exact right
  · intro kept
    have lost := kept "db8-b1" (Or.inr ⟨.left, List.mem_singleton_self _⟩)
    rw [models] at lost
    revert lost
    decide

end TorqueFinder
