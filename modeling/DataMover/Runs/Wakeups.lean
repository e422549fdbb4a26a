import DataMover.Runs.Table
import DataMover.Publication.Ledger
import DataMover.Compute.Attempts

/-!
# The wake-up timer

`next_background_work_delay` derives in aggregate SQL when the next row becomes due for `claim_run`,
`claim_due_attempt` or a recovery pass.  Its deadline agrees with the three queries at every later time
(`no_lost_wakeup`): a row can be selected exactly when the deadline has passed.
-/

namespace DataMover

/-- The tables that the queries read; `active` says which users have the status `active`. -/
structure WorkQueues where
  db : Database
  active : String → Bool
  attempts : List DatabricksComputeAttempt
  publications : PublicationTable

/-- The columns of a run that the ledger reads. -/
def PipelineRun.runLease (run : PipelineRun) : RunLease where
  userId := run.userId
  status := run.status
  leaseToken := run.leaseToken.map Subtype.val
  leaseExpiresAt := run.leaseExpiresAt

/-! ## SQL -/

/-- `min(column)`, which ignores nulls and is null without rows. -/
def sqlMin (values : List (Option Time)) : Option Time := (values.filterMap id).min?

/-- `a > b`, which is not true when `a` is null. -/
def sqlGt (a : Option Time) (b : Time) : Bool := a.any fun a => decide (b < a)

theorem min?_le_iff {values : List Time} {t : Time} :
    (∃ d, values.min? = some d ∧ d ≤ t) ↔ ∃ x ∈ values, x ≤ t := by
  constructor
  · rintro ⟨d, hd, le⟩
    exact ⟨d, List.min?_mem hd, le⟩
  · rintro ⟨x, hx, le⟩
    rcases hm : values.min? with _ | d
    · rw [List.min?_eq_none_iff.1 hm] at hx
      cases hx
    · refine ⟨d, rfl, ?_⟩
      have least := (List.min?_eq_some_iff.1 hm).2 x hx
      exact Int.le_trans least le

theorem sqlMin_le_iff {values : List (Option Time)} {t : Time} :
    (∃ d, sqlMin values = some d ∧ d ≤ t) ↔ ∃ x, some x ∈ values ∧ x ≤ t := by
  rw [sqlMin, min?_le_iff]
  simp only [List.mem_filterMap, id_eq, exists_eq_right]

/-! ## The deadlines -/

/-- `run_due`. -/
def PipelineRun.due (now : Time) (run : PipelineRun) : Option Time :=
  if run.status = .queued then some (run.nextAttemptAt.getD now) else run.leaseExpiresAt

/-- The rows of `run_deadline`, for the rows of active users. -/
def PipelineRun.waits (run : PipelineRun) : Bool :=
  decide (run.status = .queued) || (decide run.WorkerOwned && run.leaseExpiresAt.isSome)

/-- `compute_due`. -/
def DatabricksComputeAttempt.due (a : DatabricksComputeAttempt) : Option Time :=
  if sqlGt a.leaseExpiresAt a.nextPollAt then a.leaseExpiresAt else some a.nextPollAt

/-- The rows of `compute_deadline`. -/
def DatabricksComputeAttempt.waits (a : DatabricksComputeAttempt) : Bool :=
  decide (a.status = .starting) && a.activeKey.isSome

/-- `publication_due`. -/
def Publication.due (now : Time) (run : PipelineRun) (r : Publication) : Option Time :=
  let recoveryDue := r.recoveryExpiresAt.getD now
  if decide (¬ run.Terminal) && sqlGt run.leaseExpiresAt recoveryDue then run.leaseExpiresAt
  else some recoveryDue

namespace WorkQueues

variable (q : WorkQueues)

/-- The publication records with their runs. -/
def joined : List (Publication × PipelineRun) :=
  q.publications.records.filterMap fun r => (q.db.getRun r.runId).map fun run => (r, run)

/-- The deadline that `next_background_work_delay` computes at `now`. -/
def deadline (now : Time) : Option Time :=
  sqlMin [
    sqlMin ((q.db.runs.filter fun run => q.active run.userId && run.waits).map fun run =>
      run.due now),
    sqlMin ((q.attempts.filter DatabricksComputeAttempt.waits).map fun a => a.due),
    sqlMin ((q.joined.filter fun e => decide (e.1.state ∈ PublicationState.recoverable)).map
      fun e => e.1.due now e.2)]

/-- `next_background_work_delay` in microseconds, with its two readings of the clock. -/
def nextBackgroundWorkDelay (now later : Time) : Option Time :=
  (q.deadline now).map fun deadline => max 500000 (deadline - later)

/-- Some row can be selected by `claim_run`, by `claim_due_attempt` or by a recovery pass. -/
def Selectable (t : Time) : Prop :=
  (∃ run ∈ q.db.runs, q.active run.userId = true ∧ run.claimable t = true) ∨
  (∃ a ∈ q.attempts, a.Due t) ∨
  ∃ r ∈ q.publications.records, ∃ run, q.db.getRun r.runId = some run ∧
    r.RecoveryCandidate t run.runLease

end WorkQueues

/-! ## The timer agrees with the queries -/

section Rows

variable {now t : Time}

theorem PipelineRun.due_iff_claimable (h : now ≤ t) (run : PipelineRun) :
    run.claimable t = true ↔ run.waits = true ∧ ∃ d, run.due now = some d ∧ d ≤ t := by
  unfold PipelineRun.claimable PipelineRun.waits PipelineRun.due
  by_cases queued : run.status = .queued
  · have unowned : ¬ run.WorkerOwned := by
      rw [PipelineRun.WorkerOwned, queued]
      exact PipelineRunStatus.queued_notMem_owned
    rcases run.nextAttemptAt with _ | next
    · simpa [queued, unowned] using h
    · simp [queued, unowned]
  · rcases run.leaseExpiresAt with _ | expires
    · simp [queued]
    · simp [queued]

theorem DatabricksComputeAttempt.due_iff (a : DatabricksComputeAttempt) :
    a.Due t ↔ a.waits = true ∧ ∃ d, a.due = some d ∧ d ≤ t := by
  unfold Due waits due sqlGt
  rcases a.leaseExpiresAt with _ | expires
  · simp [and_assoc]
  · simp only [Option.any_some, decide_eq_true_eq, Option.mem_def, Option.some.injEq, forall_eq',
      Bool.and_eq_true, and_assoc]
    refine and_congr_right fun _ => and_congr_right fun _ => ?_
    split_ifs with later
    · simp only [Option.some.injEq, exists_eq_left']
      exact ⟨fun h => h.2, fun h => ⟨Int.le_trans (Int.le_of_lt later) h, h⟩⟩
    · simp only [Option.some.injEq, exists_eq_left']
      exact ⟨fun h => h.1, fun h => ⟨h, Int.le_trans (Int.not_lt.1 later) h⟩⟩

theorem Publication.due_iff (h : now ≤ t) (run : PipelineRun) (r : Publication) :
    r.RecoveryCandidate t run.runLease ↔
      r.state ∈ PublicationState.recoverable ∧ ∃ d, r.due now run = some d ∧ d ≤ t := by
  have recovery : (∀ expires ∈ r.recoveryExpiresAt, expires ≤ t) ↔
      r.recoveryExpiresAt.getD now ≤ t := by
    rcases r.recoveryExpiresAt with _ | expires
    · simpa using h
    · simp
  unfold RecoveryCandidate due sqlGt
  refine and_congr_right fun _ => ?_
  rw [recovery]
  generalize r.recoveryExpiresAt.getD now = recoveryDue
  by_cases ended : run.Terminal
  · simp [ended, PipelineRun.runLease]
  · rcases hl : run.leaseExpiresAt with _ | expires
    · simp [PipelineRun.runLease, hl]
    · simp only [ended, PipelineRun.runLease, hl, not_false_eq_true, decide_true, Bool.true_and,
        Option.any_some, decide_eq_true_eq, false_or, Option.mem_def, Option.some.injEq, forall_eq']
      split_ifs with later
      · simp only [Option.some.injEq, exists_eq_left']
        exact ⟨fun h => h.2, fun h => ⟨Int.le_trans (Int.le_of_lt later) h, h⟩⟩
      · simp only [Option.some.injEq, exists_eq_left']
        exact ⟨fun h => h.1, fun h => ⟨h, Int.le_trans (Int.not_lt.1 later) h⟩⟩

end Rows

namespace WorkQueues

variable {q : WorkQueues} {now t : Time}

theorem deadline_le_iff (h : now ≤ t) :
    (∃ d, q.deadline now = some d ∧ d ≤ t) ↔ q.Selectable t := by
  have runs : (∃ d, sqlMin ((q.db.runs.filter fun run => q.active run.userId && run.waits).map
      fun run => run.due now) = some d ∧ d ≤ t) ↔
      ∃ run ∈ q.db.runs, q.active run.userId = true ∧ run.claimable t = true := by
    rw [sqlMin_le_iff]
    simp only [List.mem_map, List.mem_filter, Bool.and_eq_true, PipelineRun.due_iff_claimable h]
    constructor
    · rintro ⟨d, ⟨run, ⟨hr, active, waits⟩, due⟩, le⟩
      exact ⟨run, hr, active, waits, d, due, le⟩
    · rintro ⟨run, hr, active, waits, d, due, le⟩
      exact ⟨d, ⟨run, ⟨hr, active, waits⟩, due⟩, le⟩
  have attempts : (∃ d, sqlMin ((q.attempts.filter DatabricksComputeAttempt.waits).map
      fun a => a.due) = some d ∧ d ≤ t) ↔ ∃ a ∈ q.attempts, a.Due t := by
    rw [sqlMin_le_iff]
    simp only [List.mem_map, List.mem_filter, DatabricksComputeAttempt.due_iff]
    constructor
    · rintro ⟨d, ⟨a, ⟨ha, waits⟩, due⟩, le⟩
      exact ⟨a, ha, waits, d, due, le⟩
    · rintro ⟨a, ha, waits, d, due, le⟩
      exact ⟨d, ⟨a, ⟨ha, waits⟩, due⟩, le⟩
  have records : (∃ d, sqlMin ((q.joined.filter fun e =>
      decide (e.1.state ∈ PublicationState.recoverable)).map fun e => e.1.due now e.2) = some d ∧
        d ≤ t) ↔
      ∃ r ∈ q.publications.records, ∃ run, q.db.getRun r.runId = some run ∧
        r.RecoveryCandidate t run.runLease := by
    rw [sqlMin_le_iff]
    simp only [joined, List.mem_map, List.mem_filter, List.mem_filterMap, Option.map_eq_some_iff,
      decide_eq_true_eq, Publication.due_iff h]
    constructor
    · rintro ⟨d, ⟨_, ⟨⟨r, hr, run, found, rfl⟩, state⟩, due⟩, le⟩
      exact ⟨r, hr, run, found, state, d, due, le⟩
    · rintro ⟨r, hr, run, found, state, d, due, le⟩
      exact ⟨d, ⟨_, ⟨⟨r, hr, run, found, rfl⟩, state⟩, due⟩, le⟩
  rw [Selectable, ← runs, ← attempts, ← records, deadline, sqlMin_le_iff]
  constructor
  · rintro ⟨d, hd, le⟩
    simp only [List.mem_cons, List.not_mem_nil, or_false] at hd
    rcases hd with hd | hd | hd
    · exact .inl ⟨d, hd.symm, le⟩
    · exact .inr (.inl ⟨d, hd.symm, le⟩)
    · exact .inr (.inr ⟨d, hd.symm, le⟩)
  · rintro (⟨d, hd, le⟩ | ⟨d, hd, le⟩ | ⟨d, hd, le⟩)
    · exact ⟨d, by rw [← hd]; simp, le⟩
    · exact ⟨d, by rw [← hd]; simp, le⟩
    · exact ⟨d, by rw [← hd]; simp, le⟩

/-- A row can be selected exactly when the deadline of the timer has passed, and the timer is off only
when no row will ever become due. -/
theorem no_lost_wakeup (q : WorkQueues) {now t : Time} (h : now ≤ t) :
    (q.Selectable t ↔ ∃ d, q.deadline now = some d ∧ d ≤ t) ∧
    ∀ later, q.nextBackgroundWorkDelay now later = none →
      ∀ t', now ≤ t' → ¬ q.Selectable t' := by
  refine ⟨(deadline_le_iff h).symm, fun later off t' h' selectable => ?_⟩
  obtain ⟨d, hd, -⟩ := (deadline_le_iff h').2 selectable
  rw [nextBackgroundWorkDelay, hd] at off
  cases off

/-- One run that waits until the tenth microsecond. -/
def oneWaiting : WorkQueues where
  db := {
    pipelines := []
    runs := [{
      id := "run", pipelineDefinitionId := none, userId := "user", definitionSnapshotJson := ""
      nextAttemptAt := some 10, queuedAt := 0, createdAt := 0, updatedAt := 0 }]
    primaryKey := by decide }
  active _ := true
  attempts := []
  publications := .empty

theorem no_lost_wakeup_oneWaiting : oneWaiting.deadline 0 = some 10 ∧
    oneWaiting.Selectable 10 ∧ ¬ oneWaiting.Selectable 9 := by
  have due : oneWaiting.deadline 0 = some 10 := by decide
  refine ⟨due, ?_, fun early => ?_⟩
  · exact (no_lost_wakeup oneWaiting (by decide : (0 : Time) ≤ 10)).1.2 ⟨10, due, by decide⟩
  · obtain ⟨d, hd, le⟩ := (no_lost_wakeup oneWaiting (by decide : (0 : Time) ≤ 9)).1.1 early
    rw [due] at hd
    cases hd
    exact absurd le (by decide)

end WorkQueues

end DataMover
