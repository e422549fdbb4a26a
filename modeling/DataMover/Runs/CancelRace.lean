import DataMover.Runs.Table

/-!
# Cancelling and claiming

`request_cancel` reads the run without locking it and commits the columns it changed, while
`claim_run` locks the row.  A claim between the read and the commit leaves a row that is cancelled and
still leased, and the worker can go on to end it otherwise (`cancelled_run_ends_otherwise`).  As long as
every cancelling commit finds the row without a lease, a cancelled run holds no lease and never moves
again (`cancelled_run_absorbs`).
-/

namespace DataMover

open PipelineRunStatus Transition PipelineRun

/-! ## The commit of a stale read -/

/-- What a flush writes into one column: the new value, when the call changed it. -/
def flush {α : Type} [DecidableEq α] (old new current : α) : α := if new = old then current else new

theorem flush_self {α : Type} [DecidableEq α] (old current : α) : flush old old current = current :=
  if_pos rfl

theorem flush_of_ne {α : Type} [DecidableEq α] {old new : α} (h : new ≠ old) (current : α) :
    flush old new current = new :=
  if_neg h

namespace PipelineRun

/-- The `UPDATE` by primary key of a row that was read as `old` and is `new` in the session. -/
def flushChanged (old new current : PipelineRun) : PipelineRun where
  id := current.id
  pipelineDefinitionId :=
    flush old.pipelineDefinitionId new.pipelineDefinitionId current.pipelineDefinitionId
  userId := flush old.userId new.userId current.userId
  definitionSnapshotJson :=
    flush old.definitionSnapshotJson new.definitionSnapshotJson current.definitionSnapshotJson
  status := flush old.status new.status current.status
  stage := flush old.stage new.stage current.stage
  nextAttemptAt := flush old.nextAttemptAt new.nextAttemptAt current.nextAttemptAt
  databricksComputeAttemptId := flush old.databricksComputeAttemptId new.databricksComputeAttemptId
    current.databricksComputeAttemptId
  databricksComputeStartDeadlineAt := flush old.databricksComputeStartDeadlineAt
    new.databricksComputeStartDeadlineAt current.databricksComputeStartDeadlineAt
  attempt := flush old.attempt new.attempt current.attempt
  queuedAt := flush old.queuedAt new.queuedAt current.queuedAt
  startedAt := flush old.startedAt new.startedAt current.startedAt
  finishedAt := flush old.finishedAt new.finishedAt current.finishedAt
  cancelRequestedAt := flush old.cancelRequestedAt new.cancelRequestedAt current.cancelRequestedAt
  workerId := flush old.workerId new.workerId current.workerId
  leaseToken := flush old.leaseToken new.leaseToken current.leaseToken
  leaseExpiresAt := flush old.leaseExpiresAt new.leaseExpiresAt current.leaseExpiresAt
  heartbeatAt := flush old.heartbeatAt new.heartbeatAt current.heartbeatAt
  sourceRows := flush old.sourceRows new.sourceRows current.sourceRows
  sourceRowsMeasured :=
    flush old.sourceRowsMeasured new.sourceRowsMeasured current.sourceRowsMeasured
  sourceBytes := flush old.sourceBytes new.sourceBytes current.sourceBytes
  loadedRows := flush old.loadedRows new.loadedRows current.loadedRows
  loadedRowsMeasured :=
    flush old.loadedRowsMeasured new.loadedRowsMeasured current.loadedRowsMeasured
  loadedBytes := flush old.loadedBytes new.loadedBytes current.loadedBytes
  nextEventSequence := current.nextEventSequence
  sourceManifestJson :=
    flush old.sourceManifestJson new.sourceManifestJson current.sourceManifestJson
  destinationManifestJson :=
    flush old.destinationManifestJson new.destinationManifestJson current.destinationManifestJson
  verificationJson := flush old.verificationJson new.verificationJson current.verificationJson
  guardrailJson := flush old.guardrailJson new.guardrailJson current.guardrailJson
  lastSafeStage := flush old.lastSafeStage new.lastSafeStage current.lastSafeStage
  dataImpact := flush old.dataImpact new.dataImpact current.dataImpact
  reconciliationRequired :=
    flush old.reconciliationRequired new.reconciliationRequired current.reconciliationRequired
  reconciliationReviewedAt := flush old.reconciliationReviewedAt new.reconciliationReviewedAt
    current.reconciliationReviewedAt
  errorCode := flush old.errorCode new.errorCode current.errorCode
  errorSummary := flush old.errorSummary new.errorSummary current.errorSummary
  retryable := flush old.retryable new.retryable current.retryable
  idempotencyToken := flush old.idempotencyToken new.idempotencyToken current.idempotencyToken
  parentRunId := flush old.parentRunId new.parentRunId current.parentRunId
  createdAt := flush old.createdAt new.createdAt current.createdAt
  updatedAt := flush old.updatedAt new.updatedAt current.updatedAt
  events := current.events

/-- `request_cancel` on a row that was read as `read`, committed when the row is `current`. -/
def commitCancel (R : Redaction) (now : Time) (read current : PipelineRun) : PipelineRun :=
  if read.Terminal then current
  else
    let run := { read with cancelRequestedAt := some now }
    if read.status = .queued then
      (flushChanged read
        (run.cancelColumns R now run.stage "Run cancelled before a worker claimed it.") current)
        |>.appendEvent R now "Run cancelled before a worker claimed it." (some .cancelled)
    else (flushChanged read run current).appendEvent R now "Cancellation requested." (some read.stage)

section Lifecycle

variable (R : Redaction) (now : Time) {read : PipelineRun} (current : PipelineRun)

/-- A cancelling commit writes the end of the run and leaves whatever lease the row has. -/
theorem commitCancel_lifecycle_of_queued (queued : read.status = .queued)
    (consistent : read.lifecycle.Consistent) :
    (commitCancel R now read current).lifecycle =
      ⟨.cancelled, .cancelled, some now, current.workerId, current.leaseToken,
        current.leaseExpiresAt⟩ := by
  obtain ⟨noWorker, noToken, noExpiry⟩ := consistent.unleased_of_queued queued
  have running : ¬ read.Terminal := by rw [Terminal, queued]; exact queued_notMem_terminal
  have unfinished : read.finishedAt = none := consistent.finishedAt_of_open (.inl queued)
  have stage : Stage.cancelled ≠ read.stage := by
    rcases consistent.stage_eq with hs | ⟨hs, -⟩
    · rw [show read.stage = _ from hs, show read.lifecycle.status = .queued from queued]; decide
    · rw [show read.stage = _ from hs]; decide
  simp only [commitCancel, if_neg running, if_pos queued, appendEvent_lifecycle]
  simp only [lifecycle, flushChanged] at noWorker noToken noExpiry ⊢
  congr 1
  · rw [queued]
    exact flush_of_ne (by decide : cancelled ≠ .queued) _
  · exact flush_of_ne stage _
  · rw [unfinished]
    exact flush_of_ne (Option.some_ne_none now) _
  · rw [noWorker]
    exact flush_self _ _
  · rw [noToken]
    exact flush_self _ _
  · rw [noExpiry]
    exact flush_self _ _

/-- Any other commit leaves the lifecycle of the row alone. -/
theorem commitCancel_lifecycle_of_not_queued (notQueued : read.status ≠ .queued) :
    (commitCancel R now read current).lifecycle = current.lifecycle := by
  simp only [commitCancel, if_neg notQueued]
  split_ifs
  · rfl
  · simp only [lifecycle, appendEvent, flushChanged, flush_self]

end Lifecycle

end PipelineRun

/-! ## The race -/

/-- The row of a run, and the cancel requests that have read it and not yet committed. -/
structure CancelRace where
  clock : Time
  row : PipelineRun
  pending : List PipelineRun

inductive RaceEvent where
  | readCancel
  | commitCancel (request : Nat)
  | claimRun (workerId : String) (leaseSeconds : Int) (newToken : Token)
  | worker (token : Token) (call : WorkerCall)

namespace CancelRace

/-- One read, one commit, one claim or one worker call, at a time that is not before the last one. -/
def step (R : Redaction) (s : CancelRace) (i : Time × RaceEvent) : Option CancelRace :=
  if i.1 < s.clock then none
  else match i.2 with
    | .readCancel => some { s with clock := i.1, pending := s.pending ++ [s.row] }
    | .commitCancel request =>
      (s.pending[request]?).map fun read =>
        ⟨i.1, PipelineRun.commitCancel R i.1 read s.row, s.pending.eraseIdx request⟩
    | .claimRun workerId leaseSeconds newToken =>
      if s.row.claimable i.1 then
        match s.row.claim R i.1 workerId leaseSeconds newToken with
        | .ok (row, _) => some { s with clock := i.1, row := row }
        | .error _ => none
      else none
    | .worker token call =>
      match call.effect R i.1 token s.row with
      | .ok row => some { s with clock := i.1, row := row }
      | .error _ => some { s with clock := i.1 }

/-- A freshly enqueued run, and any interleaving of cancel requests, claims and worker calls. -/
def system (R : Redaction) : System CancelRace (Time × RaceEvent) :=
  System.ofStep (step R) fun s =>
    s.pending = [] ∧ ∃ db a, s.row = Database.newRun R s.clock db a

/-- A commit that cancels the run finds the row without a lease. -/
def CancelsUnleased (s : CancelRace) (i : Time × RaceEvent) : Prop :=
  ∀ request, i.2 = .commitCancel request → ∀ read, s.pending[request]? = some read →
    read.status = .queued → s.row.leaseToken = none

variable {R : Redaction} {s s' : CancelRace} {i : Time × RaceEvent}

/-- What a step does to the row. -/
theorem step_cases (h : step R s i = some s') :
    (s'.row = s.row ∧ ∀ r ∈ s'.pending, r ∈ s.pending ∨ r = s.row) ∨
    (∃ request read, i.2 = .commitCancel request ∧ s.pending[request]? = some read ∧
      s'.row = PipelineRun.commitCancel R i.1 read s.row ∧ ∀ r ∈ s'.pending, r ∈ s.pending) ∨
    (∃ workerId leaseSeconds newToken leased, s.row.claimable i.1 = true ∧
      s.row.claim R i.1 workerId leaseSeconds newToken = .ok (s'.row, leased) ∧
      s'.pending = s.pending) ∨
    (∃ token call, WorkerCall.effect R i.1 token s.row call = .ok s'.row ∧
      s'.pending = s.pending) := by
  obtain ⟨now, e⟩ := i
  unfold step at h
  by_cases early : now < s.clock
  · rw [if_pos early] at h
    cases h
  rw [if_neg early] at h
  cases e with
  | readCancel =>
    cases h
    exact .inl ⟨rfl, fun r hr => by simpa using hr⟩
  | commitCancel request =>
    obtain ⟨read, hread, rfl⟩ := Option.map_eq_some_iff.1 h
    exact .inr (.inl ⟨request, read, rfl, hread, rfl, fun r hr => List.mem_of_mem_eraseIdx hr⟩)
  | claimRun workerId leaseSeconds newToken =>
    simp only at h
    split_ifs at h with claimable
    split at h
    · rename_i row leased hc
      cases h
      exact .inr (.inr (.inl ⟨workerId, leaseSeconds, newToken, leased, claimable, hc, rfl⟩))
    · cases h
  | worker token call =>
    simp only at h
    split at h
    · rename_i row he
      cases h
      exact .inr (.inr (.inr ⟨token, call, he, rfl⟩))
    · cases h
      exact .inl ⟨rfl, fun r hr => .inl hr⟩

/-- The row is consistent, and so was every row that a pending request has read. -/
structure Sound (s : CancelRace) : Prop where
  row : s.row.lifecycle.Consistent
  pending : ∀ read ∈ s.pending, read.lifecycle.Consistent

/-- A cancelling commit on a row without a lease ends the run for good. -/
theorem commitCancel_consistent {now : Time} {read current : PipelineRun}
    (hread : read.lifecycle.Consistent) (hcurrent : current.lifecycle.Consistent)
    (unleased : read.status = .queued → current.leaseToken = none) :
    (PipelineRun.commitCancel R now read current).lifecycle.Consistent := by
  by_cases queued : read.status = .queued
  · obtain ⟨noWorker, noToken, noExpiry⟩ := hcurrent.unleased_of_no_token (unleased queued)
    simp only [lifecycle] at noWorker noToken noExpiry
    rw [commitCancel_lifecycle_of_queued R now current queued hread, noWorker, noToken, noExpiry]
    exact ⟨iff_of_true (by decide : cancelled ∈ terminalStatuses) rfl, fun _ => ⟨rfl, rfl, rfl⟩,
      by simp [workerOwnedStatuses], by simp, .inl rfl⟩
  · rw [commitCancel_lifecycle_of_not_queued R now current queued]
    exact hcurrent

theorem Sound.step (sound : s.Sound) (ok : CancelsUnleased s i) (h : step R s i = some s') :
    s'.Sound := by
  rcases step_cases h with ⟨same, old⟩ | ⟨request, read, hi, hread, row, old⟩ |
    ⟨workerId, leaseSeconds, newToken, leased, claimable, hc, same⟩ | ⟨token, call, he, same⟩
  · refine ⟨same ▸ sound.row, fun read hr => ?_⟩
    rcases old read hr with hr | rfl
    · exact sound.pending read hr
    · exact sound.row
  · refine ⟨?_, fun r hr => sound.pending r (old r hr)⟩
    rw [row]
    exact commitCancel_consistent (sound.pending read (List.mem_of_getElem? hread)) sound.row
      (ok request hi read hread)
  · exact ⟨(claim_move claimable sound.row hc).consistent sound.row, same ▸ sound.pending⟩
  · exact ⟨(WorkerCall.effect_move he).2.consistent sound.row, same ▸ sound.pending⟩

theorem sound_of_reachable (h : ((system R).restrict CancelsUnleased).Reachable s) : s.Sound := by
  refine h.invariant (I := Sound) ?_ ?_
  · rintro s ⟨noReads, db, a, row⟩
    exact ⟨row ▸ newRun_consistent db s.clock a, by simp [noReads]⟩
  · exact fun s i s' _ sound hs => sound.step hs.1 hs.2

/-- A cancelled run is left alone by every step. -/
theorem cancelled_of_step (sound : s.Sound) (h : step R s i = some s')
    (hc : s.row.status = .cancelled) : s'.row.status = .cancelled := by
  have ended : s.row.Terminal := by rw [Terminal, hc]; decide
  rcases step_cases h with ⟨same, -⟩ | ⟨request, read, -, hread, row, -⟩ |
    ⟨workerId, leaseSeconds, newToken, leased, claimable, hm, -⟩ | ⟨token, call, he, -⟩
  · rw [same, hc]
  · by_cases queued : read.status = .queued
    · have hl := commitCancel_lifecycle_of_queued R i.1 s.row queued
        (sound.pending read (List.mem_of_getElem? hread))
      rw [← row] at hl
      exact congrArg Lifecycle.status hl
    · have hl := commitCancel_lifecycle_of_not_queued R i.1 s.row queued
      rw [← row] at hl
      exact (congrArg Lifecycle.status hl).trans hc
  · have same := (claim_move claimable sound.row hm).eq_of_terminal sound.row ended
    exact (congrArg Lifecycle.status same).trans hc
  · have same := (WorkerCall.effect_move he).2.eq_of_terminal sound.row ended
    exact (congrArg Lifecycle.status same).trans hc

/-- While no cancelling commit meets a lease, a cancelled run holds no lease, refuses every worker and
stays cancelled. -/
theorem cancelled_run_absorbs (h : ((system R).restrict CancelsUnleased).Reachable s)
    (hc : s.row.status = .cancelled) :
    (s.row.workerId = none ∧ s.row.leaseToken = none ∧ s.row.leaseExpiresAt = none) ∧
    ∀ s', ((system R).restrict CancelsUnleased).Steps s s' → s'.row.status = .cancelled ∧
      ∀ now token call, WorkerCall.Refused R now token s'.row call := by
  have ended (s : CancelRace) (hc : s.row.status = .cancelled) : s.row.Terminal := by
    rw [Terminal, hc]; decide
  refine ⟨(sound_of_reachable h).row.unleased_of_terminal (ended s hc), fun s' hs => ?_⟩
  have stays : s'.row.status = .cancelled := by
    refine h.guarantee (G := fun s s' => s.row.status = .cancelled → s'.row.status = .cancelled)
      ?_ ?_ ?_ hs hc
    · exact fun _ hc => hc
    · exact fun _ _ _ hst htu hc => htu (hst hc)
    · exact fun s i s' h hs => cancelled_of_step (sound_of_reachable h) hs.2
  refine ⟨stays, fun now token call => WorkerCall.refused_of_not_leaseHeld call fun held => ?_⟩
  have free := ((sound_of_reachable (h.steps hs)).row.unleased_of_terminal (ended s' stays)).2.1
  have := held.1
  rw [show s'.row.leaseToken = none from free] at this
  cases this

/-! ## The lost lease -/

/-- A freshly queued run. -/
def queuedRace : CancelRace where
  clock := 0
  row := Database.newRun .trivial 0 onePipeline.2 {
    userId := "user", pipelineId := "pipeline", snapshotJson := "", routeAllowed := true,
    writerEnabled := true, newId := "run" }
  pending := []

/-- A cancel request reads the queued run, a worker claims it, and the request commits. -/
def cancelAroundClaim : List (Time × RaceEvent) :=
  [(1, .readCancel), (2, .claimRun "worker" 60 ⟨"token", token_ne_empty⟩), (3, .commitCancel 0)]

/-- The worker completes the run. -/
def completeCancelled : Time × RaceEvent := (4, .worker ⟨"token", token_ne_empty⟩ (.completeRun {}))

theorem cancelled_run_ends_otherwise : ∃ s s' : CancelRace, (system .trivial).Reachable s ∧
    (system .trivial).Step s completeCancelled s' ∧ s.row.status = .cancelled ∧
    s.row.leaseToken = some ⟨"token", by decide⟩ ∧ s.row.workerId = some "worker" ∧
    s.row.leaseExpiresAt.isSome ∧ s'.row.status = .succeeded := by
  have replays : ((run (step .trivial) queuedRace cancelAroundClaim).bind fun s =>
      step .trivial s completeCancelled).isSome := by decide
  obtain ⟨s', h⟩ := Option.isSome_iff_exists.1 replays
  obtain ⟨s, hs, hs'⟩ := Option.bind_eq_some_iff.1 h
  have rows : ∀ s ∈ run (step .trivial) queuedRace cancelAroundClaim,
      ∀ s' ∈ step .trivial s completeCancelled, s.row.status = .cancelled ∧
        s.row.leaseToken = some ⟨"token", by decide⟩ ∧ s.row.workerId = some "worker" ∧
        s.row.leaseExpiresAt.isSome ∧ s'.row.status = .succeeded := by decide
  have initial : (system .trivial).Reachable queuedRace := .init ⟨rfl, _, _, rfl⟩
  exact ⟨s, s', initial.steps (steps_of_run hs), hs', rows s hs s' hs'⟩

/-- A request that commits before the claim ends the run for good. -/
theorem cancelled_run_absorbs_before_claim :
    ∃ s₁ s, step .trivial queuedRace (1, .readCancel) = some s₁ ∧
      step .trivial s₁ (2, .commitCancel 0) = some s ∧ s.row.status = .cancelled ∧
      s.row.leaseToken = none ∧ ∀ now token call, WorkerCall.Refused .trivial now token s.row call := by
  have replays : ((step .trivial queuedRace (1, .readCancel)).bind fun s₁ =>
      step .trivial s₁ (2, .commitCancel 0)).isSome := by decide
  obtain ⟨s, h⟩ := Option.isSome_iff_exists.1 replays
  obtain ⟨s₁, hs₁, hs⟩ := Option.bind_eq_some_iff.1 h
  have rows : ∀ s₁ ∈ step .trivial queuedRace (1, .readCancel), s₁.row.leaseToken = none ∧
      ∀ s ∈ step .trivial s₁ (2, .commitCancel 0), s.row.status = .cancelled := by decide
  obtain ⟨unleased, cancels⟩ := rows s₁ hs₁
  have initial : ((system .trivial).restrict CancelsUnleased).Reachable queuedRace :=
    .init ⟨rfl, _, _, rfl⟩
  have reachable : ((system .trivial).restrict CancelsUnleased).Reachable s :=
    (initial.step (i := (1, .readCancel)) ⟨nofun, hs₁⟩).step (i := (2, .commitCancel 0))
      ⟨fun _ _ _ _ _ => unleased, hs⟩
  obtain ⟨⟨-, free, -⟩, absorbs⟩ := cancelled_run_absorbs reachable (cancels s hs)
  exact ⟨s₁, s, hs₁, hs, cancels s hs, free, (absorbs s .refl).2⟩

end CancelRace

end DataMover
