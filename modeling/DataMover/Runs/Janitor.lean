import DataMover.Runs.Table
import DataMover.Publication.Ledger

/-!
# Retention

`janitor`: old events and terminal runs are deleted, together with the publication records of the
deleted runs.  Nothing that a guard depends on is among them (`janitor_spares_guards`): neither a run
that `enqueue_run` would still refuse its pipeline for, nor a publication record that holds its target.
-/

namespace DataMover

/-- The retention settings. -/
structure Retention where
  pipelineEventRetentionDays : Int
  pipelineRunRetentionDays : Int

/-- `timedelta(days=n)`. -/
def days (n : Int) : Time := seconds (86400 * n)

/-- The tables that the janitor reads. -/
structure Store where
  db : Database
  publications : PublicationTable

/-- The numbers of deleted rows that the janitor returns. -/
structure Purged where
  events : Nat
  runs : Nat
  deriving DecidableEq

/-- The run needs a review that it has not had. -/
def PipelineRun.unreviewed (run : PipelineRun) : Bool :=
  run.requiresReconciliationReview && !run.reconciliationReviewed

/-- Provider reconciliation or staging cleanup still has work to do. -/
def Publication.protects (r : Publication) : Bool :=
  decide (r.state ∉ [.complete, .unchanged]) || r.activeTargetKey.isSome

/-! ## Deleting rows -/

/-- Delete the events that are not kept. -/
def Database.keepEvents (db : Database) (keep : PipelineRun → PipelineRunEvent → Bool) :
    Database where
  pipelines := db.pipelines
  runs := db.runs.map fun run => { run with events := run.events.filter (keep run) }
  primaryKey := by
    rw [List.map_map]
    exact db.primaryKey

/-- Delete some runs; `parent_run_id` becomes null where it names one of them. -/
def Database.deleteRuns (db : Database) (gone : PipelineRun → Bool) : Database where
  pipelines := db.pipelines
  runs := (db.runs.filter fun run => !gone run).map fun run =>
    { run with parentRunId := run.parentRunId.filter fun id =>
        !(db.runs.any fun parent => gone parent && decide (parent.id = id)) }
  primaryKey := by
    rw [List.map_map]
    exact (List.filter_sublist.map _).nodup db.primaryKey

/-- The publication record of a deleted run is deleted with it. -/
def PublicationTable.deleteRuns (t : PublicationTable) (gone : String → Bool) :
    PublicationTable where
  records := t.records.filter fun r => !gone r.runId
  primaryKey := (List.filter_sublist.map _).nodup t.primaryKey
  activeTarget a ha b hb := t.activeTarget a (List.mem_of_mem_filter ha) b
    (List.mem_of_mem_filter hb)

namespace Store

/-- `protected_publication_run_ids`. -/
def protectedPublicationRunIds (s : Store) : List String :=
  (s.publications.records.filter Publication.protects).map Publication.runId

/-- `protected_event_run_ids`. -/
def protectedEventRunIds (s : Store) : List String :=
  (s.db.runs.filter fun run => decide run.Terminal && run.unreviewed).map PipelineRun.id ++
    s.protectedPublicationRunIds

/-- The event is old, and nothing protects it. -/
def purgesEvent (s : Store) (cutoff : Time) (run : PipelineRun) (event : PipelineRunEvent) : Bool :=
  decide (event.occurredAt < cutoff) && decide (run.id ∉ s.protectedEventRunIds)

/-- The run is old and terminal, and nothing protects it. -/
def purgesRun (s : Store) (cutoff : Time) (run : PipelineRun) : Bool :=
  decide run.Terminal && run.finishedAt.any (fun finished => decide (finished < cutoff)) &&
    decide (run.id ∉ s.protectedPublicationRunIds) && !run.unreviewed

/-- `janitor`, without the catalog cache and the spool files. -/
def janitor (settings : Retention) (now : Time) (s : Store) : Store × Purged :=
  let eventCutoff := now - days settings.pipelineEventRetentionDays
  let runCutoff := now - days settings.pipelineRunRetentionDays
  let gone := s.db.runs.filter (s.purgesRun runCutoff)
  ({ db := (s.db.keepEvents fun run event => !s.purgesEvent eventCutoff run event).deleteRuns
        (s.purgesRun runCutoff)
     publications := s.publications.deleteRuns fun runId => gone.any fun run =>
        decide (run.id = runId) },
   { events := (s.db.runs.map fun run => run.events.countP (s.purgesEvent eventCutoff run)).sum
     runs := gone.length })

/-! ## What is left -/

variable {s : Store} {settings : Retention} {now : Time}

theorem unprotected_of_notMem {runId : String} (h : runId ∉ s.protectedPublicationRunIds)
    {r : Publication} (hr : r ∈ s.publications.records) (same : r.runId = runId) :
    r.state ∈ [.complete, .unchanged] ∧ r.activeTargetKey = none := by
  have unprotected : r.protects = false := by
    refine Bool.eq_false_iff.2 fun protects => h (same ▸ ?_)
    exact List.mem_map_of_mem (List.mem_filter.2 ⟨hr, protects⟩)
  rw [Publication.protects, Bool.or_eq_false_iff] at unprotected
  refine ⟨?_, by simpa using unprotected.2⟩
  exact not_not.1 (of_decide_eq_false unprotected.1)

/-- The conditions under which a run is deleted. -/
structure Purgeable (s : Store) (cutoff : Time) (run : PipelineRun) : Prop where
  terminal : run.Terminal
  finished : ∃ finished ∈ run.finishedAt, finished < cutoff
  reviewed : run.requiresReconciliationReview = true → run.reconciliationReviewed = true
  settled : ∀ r ∈ s.publications.records, r.runId = run.id →
    r.state ∈ [.complete, .unchanged] ∧ r.activeTargetKey = none

theorem purgeable {cutoff : Time} {run : PipelineRun} (h : s.purgesRun cutoff run = true) :
    s.Purgeable cutoff run := by
  simp only [purgesRun, Bool.and_eq_true, decide_eq_true_eq, Bool.not_eq_true'] at h
  obtain ⟨⟨⟨terminal, old⟩, unprotected⟩, reviewed⟩ := h
  refine ⟨terminal, ?_, fun needs => ?_, fun r hr same => unprotected_of_notMem unprotected hr same⟩
  · obtain ⟨finished, hf, lt⟩ := (Option.any_eq_true ..).1 old
    exact ⟨finished, hf, of_decide_eq_true lt⟩
  · rw [PipelineRun.unreviewed, needs, Bool.true_and, Bool.not_eq_false'] at reviewed
    exact reviewed

/-- A run that is left, with its events, and its parent when that is left too. -/
structure Left (before after : Store) (run run' : PipelineRun) : Prop where
  row : run' = { run with events := run'.events, parentRunId := run'.parentRunId }
  parent : run'.parentRunId = run.parentRunId ∨
    run'.parentRunId = none ∧ ∃ parent ∈ before.db.runs, run.parentRunId = some parent.id ∧
      after.db.getRun parent.id = none
  events : run'.events.Sublist run.events

/-- The rows that are left. -/
theorem mem_runs_janitor {run' : PipelineRun} :
    run' ∈ (s.janitor settings now).1.db.runs ↔
      ∃ run ∈ s.db.runs, s.purgesRun (now - days settings.pipelineRunRetentionDays) run = false ∧
        run' = { run with
          events := run.events.filter fun event =>
            !s.purgesEvent (now - days settings.pipelineEventRetentionDays) run event
          parentRunId := run.parentRunId.filter fun id => !(s.db.runs.any fun parent =>
            s.purgesRun (now - days settings.pipelineRunRetentionDays) parent &&
              decide (parent.id = id)) } := by
  simp only [janitor, Database.deleteRuns, Database.keepEvents, List.mem_map, List.mem_filter,
    List.any_map, Bool.not_eq_true']
  constructor
  · rintro ⟨_, ⟨⟨run, hr, rfl⟩, kept⟩, rfl⟩
    exact ⟨run, hr, kept, rfl⟩
  · rintro ⟨run, hr, kept, rfl⟩
    exact ⟨_, ⟨⟨run, hr, rfl⟩, kept⟩, rfl⟩

/-- A run that is deleted is found no more. -/
theorem getRun_janitor_eq_none {run : PipelineRun} (hr : run ∈ s.db.runs) :
    (s.janitor settings now).1.db.getRun run.id = none ↔
      s.purgesRun (now - days settings.pipelineRunRetentionDays) run = true := by
  constructor
  · intro absent
    refine Bool.of_not_eq_false fun kept => ?_
    have left := mem_runs_janitor.2 ⟨run, hr, kept, rfl⟩
    have found := List.find?_eq_none.1 absent _ left
    simp at found
  · intro purged
    refine List.find?_eq_none.2 fun run' hr' => ?_
    obtain ⟨run₀, hr₀, kept, rfl⟩ := mem_runs_janitor.1 hr'
    simp only [decide_eq_true_eq]
    intro same
    rw [Database.eq_of_id_eq hr₀ hr same, purged] at kept
    cases kept

theorem left_of_mem {run' : PipelineRun} (h : run' ∈ (s.janitor settings now).1.db.runs) :
    ∃ run ∈ s.db.runs, run.id = run'.id ∧ Left s (s.janitor settings now).1 run run' := by
  obtain ⟨run, hr, -, rfl⟩ := mem_runs_janitor.1 h
  refine ⟨run, hr, rfl, rfl, ?_, List.filter_sublist⟩
  rcases hp : run.parentRunId with _ | id
  · exact .inl rfl
  · by_cases gone : (s.db.runs.any fun parent =>
        s.purgesRun (now - days settings.pipelineRunRetentionDays) parent &&
          decide (parent.id = id)) = true
    · refine .inr ⟨by simp [Option.filter, gone], ?_⟩
      obtain ⟨parent, hparent, purged⟩ := List.any_eq_true.1 gone
      rw [Bool.and_eq_true, decide_eq_true_eq] at purged
      exact ⟨parent, hparent, by rw [purged.2], (getRun_janitor_eq_none hparent).2 purged.1⟩
    · exact .inl (by simp [Option.filter, gone])

/-- The records that are left are those of the runs that are. -/
theorem mem_records_janitor {r : Publication} :
    r ∈ (s.janitor settings now).1.publications.records ↔
      r ∈ s.publications.records ∧ ∀ run ∈ s.db.runs, run.id = r.runId →
        (s.janitor settings now).1.db.getRun run.id ≠ none := by
  simp only [janitor, PublicationTable.deleteRuns, List.mem_filter, Bool.not_eq_true',
    List.any_eq_false, decide_eq_true_eq]
  refine and_congr_right fun _ => ⟨fun h run hr same absent => ?_, ?_⟩
  · exact h run ⟨hr, (getRun_janitor_eq_none hr).1 absent⟩ same
  · rintro h run ⟨hr, purged⟩ same
    exact h run hr same ((getRun_janitor_eq_none hr).2 purged)

/-- The guard of `enqueue_run` sees the same. -/
theorem any_unresolved_janitor (userId pipelineId : String) :
    ((s.janitor settings now).1.db.runsOf userId pipelineId).any PipelineRun.unresolved =
      (s.db.runsOf userId pipelineId).any PipelineRun.unresolved := by
  rw [Bool.eq_iff_iff, List.any_eq_true, List.any_eq_true]
  constructor
  · rintro ⟨run', hr', unresolved⟩
    obtain ⟨left, mine⟩ := List.mem_filter.1 hr'
    obtain ⟨run, hr, -, rfl⟩ := mem_runs_janitor.1 left
    exact ⟨run, List.mem_filter.2 ⟨hr, mine⟩, unresolved⟩
  · rintro ⟨run, hr, unresolved⟩
    obtain ⟨hr, mine⟩ := List.mem_filter.1 hr
    have kept : s.purgesRun (now - days settings.pipelineRunRetentionDays) run = false := by
      refine Bool.eq_false_iff.2 fun purged => ?_
      have reviewed := (purgeable purged).reviewed
      simp only [PipelineRun.unresolved, Bool.and_eq_true, Bool.not_eq_true'] at unresolved
      rw [reviewed unresolved.1.2] at unresolved
      cases unresolved.2
    exact ⟨_, List.mem_filter.2 ⟨mem_runs_janitor.2 ⟨run, hr, kept, rfl⟩, mine⟩, unresolved⟩

/-- A record that holds a target is never deleted. -/
theorem holder_janitor (key : String) :
    (∃ r ∈ (s.janitor settings now).1.publications.records, r.activeTargetKey = some key) ↔
      ∃ r ∈ s.publications.records, r.activeTargetKey = some key := by
  constructor
  · rintro ⟨r, hr, held⟩
    exact ⟨r, (mem_records_janitor.1 hr).1, held⟩
  · rintro ⟨r, hr, held⟩
    refine ⟨r, mem_records_janitor.2 ⟨hr, fun run hrun same absent => ?_⟩, held⟩
    have purged := (getRun_janitor_eq_none hrun).1 absent
    have released := ((purgeable purged).settled r hr same.symm).2
    rw [held] at released
    cases released

/-- The janitor deletes only runs that no guard depends on, changes no other column of the runs that
are left than a `parent_run_id` whose run is gone, and the guards decide as before. -/
theorem janitor_spares_guards (settings : Retention) (now : Time) (s : Store) :
    (∀ run ∈ s.db.runs, (s.janitor settings now).1.db.getRun run.id = none →
      s.Purgeable (now - days settings.pipelineRunRetentionDays) run) ∧
    (∀ run' ∈ (s.janitor settings now).1.db.runs,
      ∃ run ∈ s.db.runs, run.id = run'.id ∧ Left s (s.janitor settings now).1 run run') ∧
    (∀ r, r ∈ (s.janitor settings now).1.publications.records ↔
      r ∈ s.publications.records ∧ ∀ run ∈ s.db.runs, run.id = r.runId →
        (s.janitor settings now).1.db.getRun run.id ≠ none) ∧
    (s.janitor settings now).1.db.pipelines = s.db.pipelines ∧
    (∀ userId pipelineId,
      ((s.janitor settings now).1.db.runsOf userId pipelineId).any PipelineRun.unresolved =
        (s.db.runsOf userId pipelineId).any PipelineRun.unresolved) ∧
    ∀ key, (∃ r ∈ (s.janitor settings now).1.publications.records, r.activeTargetKey = some key) ↔
      ∃ r ∈ s.publications.records, r.activeTargetKey = some key :=
  ⟨fun _ hr absent => purgeable ((getRun_janitor_eq_none hr).1 absent), fun _ h => left_of_mem h,
    fun _ => mem_records_janitor, rfl, any_unresolved_janitor, holder_janitor⟩

/-- A run that ended and was retried, with its retry. -/
def retried : Store where
  db := {
    pipelines := []
    runs := [
      { id := "first", pipelineDefinitionId := none, userId := "user", definitionSnapshotJson := ""
        status := .succeeded, stage := .verify, finishedAt := some 0, queuedAt := 0, createdAt := 0
        updatedAt := 0 },
      { id := "second", pipelineDefinitionId := none, userId := "user", definitionSnapshotJson := ""
        parentRunId := some "first", queuedAt := 0, createdAt := 0, updatedAt := 0 }]
    primaryKey := by decide }
  publications := .empty

/-- Deleting a run changes the `parent_run_id` of its retry. -/
theorem janitor_changes_parent : ∃ run ∈ retried.db.runs,
    ∃ run' ∈ (retried.janitor ⟨30, 90⟩ (days 91)).1.db.runs,
      run'.id = run.id ∧ run.parentRunId = some "first" ∧ run'.parentRunId = none ∧ run' ≠ run := by
  decide

end Store

end DataMover
