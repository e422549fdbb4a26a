import DataMover.Json

/-!
# Run states

The vocabulary of a pipeline run (statuses, stages, data impacts, error codes and the exceptions of
the service layer), the row `PipelineRun` of the run table, and the lifecycle policy
`PipelineRunStateMachine`, which is the only writer of `status` and `stage` apart from the requeues of
`claim_run` and `defer_run_for_databricks_compute`.
-/

namespace DataMover

/-- A naive UTC `datetime`, in microseconds. -/
abbrev Time := Int

/-- `timedelta(seconds=n)`. -/
def seconds (n : Int) : Time := n * 1000000

inductive PipelineRunStatus where
  | queued
  | validating
  | extracting
  | loading
  | verifying
  | blocked
  | succeeded
  | failed
  | cancelled
  | failedNeedsReconciliation
  deriving DecidableEq, Repr

namespace PipelineRunStatus

def value : PipelineRunStatus → String
  | queued => "queued"
  | validating => "validating"
  | extracting => "extracting"
  | loading => "loading"
  | verifying => "verifying"
  | blocked => "blocked"
  | succeeded => "succeeded"
  | failed => "failed"
  | cancelled => "cancelled"
  | failedNeedsReconciliation => "failed_needs_reconciliation"

def workerOwnedStatuses : List PipelineRunStatus := [validating, extracting, loading, verifying]

def terminalStatuses : List PipelineRunStatus :=
  [blocked, succeeded, failed, cancelled, failedNeedsReconciliation]

/-- `ALLOWED_TRANSITIONS.get(status, frozenset())`. -/
def allowedTransitions : PipelineRunStatus → List PipelineRunStatus
  | queued => [validating, cancelled]
  | validating => [extracting, blocked, failed, failedNeedsReconciliation, cancelled]
  | extracting => [loading, blocked, failed, failedNeedsReconciliation, cancelled]
  | loading => [verifying, failed, failedNeedsReconciliation, cancelled]
  | verifying => [succeeded, failed, failedNeedsReconciliation, cancelled]
  | blocked | succeeded | failed | cancelled | failedNeedsReconciliation => []

/-- A status is queued, owned by a worker or terminal. -/
theorem queued_or_owned_or_terminal (s : PipelineRunStatus) :
    s = queued ∨ s ∈ workerOwnedStatuses ∨ s ∈ terminalStatuses := by
  cases s <;> decide

theorem queued_notMem_terminal : queued ∉ terminalStatuses := by decide

theorem queued_notMem_owned : queued ∉ workerOwnedStatuses := by decide

theorem validating_notMem_terminal : validating ∉ terminalStatuses := by decide

/-- No transition leads back to the queue. -/
theorem queued_notMem_allowedTransitions (s : PipelineRunStatus) :
    queued ∉ s.allowedTransitions := by
  cases s <;> decide

theorem notMem_terminal_of_mem_owned {s : PipelineRunStatus} (h : s ∈ workerOwnedStatuses) :
    s ∉ terminalStatuses := by
  revert h; cases s <;> decide

end PipelineRunStatus

/-- The stage texts of runs and run events. -/
inductive Stage where
  | queued
  | waitingForCompute
  | authenticate
  | inspect
  | transfer
  | verify
  | guardrails
  | failed
  | cancelled
  | reconcile
  | computeStartup
  | loading
  | verifying
  deriving DecidableEq, Repr

/-- The stored text of a stage. -/
def Stage.value : Stage → String
  | queued => "queued"
  | waitingForCompute => "waiting_for_compute"
  | authenticate => "authenticate"
  | inspect => "inspect"
  | transfer => "transfer"
  | verify => "verify"
  | guardrails => "guardrails"
  | failed => "failed"
  | cancelled => "cancelled"
  | reconcile => "reconcile"
  | computeStartup => "compute_startup"
  | loading => "loading"
  | verifying => "verifying"

def stageForStatus : PipelineRunStatus → Stage
  | .queued => .queued
  | .validating => .authenticate
  | .extracting => .inspect
  | .loading => .transfer
  | .verifying => .verify
  | .blocked => .guardrails
  | .succeeded => .verify
  | .failed => .failed
  | .cancelled => .cancelled
  | .failedNeedsReconciliation => .reconcile

inductive DataImpact where
  | notApplicable
  | unchanged
  | rolledBack
  | changed
  | uncertain
  | verified
  deriving DecidableEq, Repr

def DataImpact.value : DataImpact → String
  | notApplicable => "not_applicable"
  | unchanged => "unchanged"
  | rolledBack => "rolled_back"
  | changed => "changed"
  | uncertain => "uncertain"
  | verified => "verified"

inductive TransferErrorCode where
  | credentialsMissing
  | credentialsStale
  | authenticationFailed
  | permissionDenied
  | endpointBlocked
  | tlsFailed
  | connectionTimeout
  | providerUnavailable
  | rateLimited
  | sourceNotFound
  | destinationNotFound
  | schemaDrift
  | sensitiveDataGuardrailBlocked
  | unsupportedType
  | sourceLimitExceeded
  | spoolLimitExceeded
  | runTimeout
  | destinationConflict
  | computeNotReady
  | metadataIncomplete
  | partialWrite
  | publishUncertain
  | verificationFailed
  | cancelledByUser
  | workerLost
  | internalError
  deriving DecidableEq, Repr

namespace TransferErrorCode

def value : TransferErrorCode → String
  | credentialsMissing => "credentials_missing"
  | credentialsStale => "credentials_stale"
  | authenticationFailed => "authentication_failed"
  | permissionDenied => "permission_denied"
  | endpointBlocked => "endpoint_blocked"
  | tlsFailed => "tls_failed"
  | connectionTimeout => "connection_timeout"
  | providerUnavailable => "provider_unavailable"
  | rateLimited => "rate_limited"
  | sourceNotFound => "source_not_found"
  | destinationNotFound => "destination_not_found"
  | schemaDrift => "schema_drift"
  | sensitiveDataGuardrailBlocked => "sensitive_data_guardrail_blocked"
  | unsupportedType => "unsupported_type"
  | sourceLimitExceeded => "source_limit_exceeded"
  | spoolLimitExceeded => "spool_limit_exceeded"
  | runTimeout => "run_timeout"
  | destinationConflict => "destination_conflict"
  | computeNotReady => "compute_not_ready"
  | metadataIncomplete => "metadata_incomplete"
  | partialWrite => "partial_write"
  | publishUncertain => "publish_uncertain"
  | verificationFailed => "verification_failed"
  | cancelledByUser => "cancelled_by_user"
  | workerLost => "worker_lost"
  | internalError => "internal_error"

/-- `RETRYABLE_CODES`, the default of `ConnectorError.retryable`. -/
def retryableByDefault : TransferErrorCode → Bool
  | providerUnavailable | rateLimited | connectionTimeout | runTimeout | workerLost => true
  | _ => false

end TransferErrorCode

/-- An error code as `fail_run` receives it: a member of `TransferErrorCode`, or a text that
`TransferErrorCode(code)` rejects. -/
inductive ErrorCode where
  | known (code : TransferErrorCode)
  | unrecognized (text : String) (h : ∀ c : TransferErrorCode, c.value ≠ text)
  deriving DecidableEq

/-- `str(code)`. -/
def ErrorCode.value : ErrorCode → String
  | known code => code.value
  | unrecognized text _ => text

/-- `ConnectorError`, without the fields that only reach the diagnostic log. -/
structure ConnectorError where
  code : TransferErrorCode
  summary : String
  retryable : Bool := code.retryableByDefault
  dataImpact : Option DataImpact := none
  deriving DecidableEq

/-- The exceptions that cross the service layer and the transfer engine. -/
inductive Exn where
  | connector (e : ConnectorError)
  | runConflict (message : String)
  | lookup (message : String)
  | value (message : String)
  | other (typeName : String)
  deriving DecidableEq

/-- `isinstance(exc, RunConflictError)`. -/
def Exn.isRunConflict : Exn → Bool
  | .runConflict _ => true
  | _ => false

/-- A computation that raises nothing ran through all its steps. -/
theorem bind_eq_ok {ε α β : Type} {x : Except ε α} {f : α → Except ε β} {b : β} :
    (x >>= f) = .ok b ↔ ∃ a, x = .ok a ∧ f a = .ok b := by
  cases x <;> simp [bind, Except.bind]

theorem map_eq_ok {ε α β : Type} {x : Except ε α} {f : α → β} {b : β} :
    (f <$> x) = .ok b ↔ ∃ a, x = .ok a ∧ f a = b := by
  cases x <;> simp [Functor.map, Except.map]

/-- A lease token: the text of a fresh UUID, so never empty. -/
abbrev Token := { t : String // t ≠ "" }

theorem token_ne_empty : "token" ≠ "" := by decide

inductive Level where
  | info
  | warning
  | error
  deriving DecidableEq, Repr

structure PipelineRunEvent where
  sequence : Nat
  occurredAt : Time
  level : Level
  stage : Stage
  message : String
  deriving DecidableEq

/-- A row of `pipeline_runs`, with its events. -/
structure PipelineRun where
  id : String
  pipelineDefinitionId : Option String
  userId : String
  definitionSnapshotJson : String
  status : PipelineRunStatus := .queued
  stage : Stage := .queued
  nextAttemptAt : Option Time := none
  databricksComputeAttemptId : Option String := none
  databricksComputeStartDeadlineAt : Option Time := none
  attempt : Int := 1
  queuedAt : Time
  startedAt : Option Time := none
  finishedAt : Option Time := none
  cancelRequestedAt : Option Time := none
  workerId : Option String := none
  leaseToken : Option Token := none
  leaseExpiresAt : Option Time := none
  heartbeatAt : Option Time := none
  sourceRows : Nat := 0
  sourceRowsMeasured : Bool := false
  sourceBytes : Nat := 0
  loadedRows : Nat := 0
  loadedRowsMeasured : Bool := false
  loadedBytes : Nat := 0
  nextEventSequence : Nat := 0
  sourceManifestJson : Option Stored := none
  destinationManifestJson : Option Stored := none
  verificationJson : Option Stored := none
  guardrailJson : Option Stored := none
  lastSafeStage : Option Stage := none
  dataImpact : Option DataImpact := none
  reconciliationRequired : Bool := false
  reconciliationReviewedAt : Option Time := none
  errorCode : Option ErrorCode := none
  errorSummary : Option String := none
  retryable : Bool := false
  idempotencyToken : Option String := none
  parentRunId : Option String := none
  createdAt : Time
  updatedAt : Time
  events : List PipelineRunEvent := []
  deriving DecidableEq

/-- `redact_text` and `redact_mapping`, applied to everything the service layer stores as text. -/
structure Redaction where
  text : String → String
  mapping : Document → Document

/-- `s[:n]`. -/
def clip (n : Nat) (s : String) : String := String.ofList (s.toList.take n)

namespace PipelineRun

/-- The run row is terminal. -/
abbrev Terminal (run : PipelineRun) : Prop := run.status ∈ PipelineRunStatus.terminalStatuses

/-- The run row is in a status of `WORKER_OWNED_STATUSES`. -/
abbrev WorkerOwned (run : PipelineRun) : Prop := run.status ∈ PipelineRunStatus.workerOwnedStatuses

/-- `PipelineRunStateMachine.set_status`. -/
def setStatus (now : Time) (run : PipelineRun) (status : PipelineRunStatus)
    (leaseToken : Option Token) : PipelineRun :=
  let run := { run with status := status, stage := stageForStatus status, updatedAt := now }
  if status ∈ PipelineRunStatus.terminalStatuses then
    { run with
      finishedAt := some now
      workerId := none
      leaseToken := none
      leaseExpiresAt := none }
  else match leaseToken with
    | some token => { run with leaseToken := some token }
    | none => run

/-- `PipelineRunStateMachine.require_lease`. -/
def requireLease (run : PipelineRun) (leaseToken : Token) : Except Exn Unit :=
  if run.leaseToken ≠ some leaseToken then
    .error (.runConflict "This worker no longer holds the run lease.")
  else .ok ()

/-- `PipelineRunStateMachine.transition`. -/
def applyTransition (now : Time) (run : PipelineRun) (status : PipelineRunStatus)
    (leaseToken : Option Token) : Except Exn PipelineRun :=
  if status ∉ run.status.allowedTransitions then
    .error (.runConflict
      ("Cannot move a " ++ run.status.value ++ " run to " ++ status.value ++ "."))
  else .ok (run.setStatus now status leaseToken)

/-- `_refresh_and_require_lease`, on the row as the database holds it. -/
def refreshAndRequireLease (now : Time) (run : PipelineRun) (leaseToken : Token) :
    Except Exn Unit := do
  run.requireLease leaseToken
  match run.leaseExpiresAt with
  | some expires =>
    if expires ≤ now then .error (.runConflict "This worker's run lease has expired.") else .ok ()
  | none => .ok ()

/-- `append_event`: the row's sequence counter advances with the event. -/
def appendEvent (R : Redaction) (now : Time) (run : PipelineRun) (message : String)
    (stage : Option Stage := none) (level : Level := .info) : PipelineRun :=
  { run with
    nextEventSequence := run.nextEventSequence + 1
    events := run.events ++ [{
      sequence := run.nextEventSequence + 1
      occurredAt := now
      level := level
      stage := stage.getD run.stage
      message := clip 500 (R.text message) }] }

/-! ## What the state machine writes -/

section SetStatus

variable (now : Time) (run : PipelineRun) (s : PipelineRunStatus) (token : Option Token)

@[simp] theorem setStatus_status : (run.setStatus now s token).status = s := by
  unfold setStatus; split_ifs
  · rfl
  · cases token <;> rfl

@[simp] theorem setStatus_stage : (run.setStatus now s token).stage = stageForStatus s := by
  unfold setStatus; split_ifs
  · rfl
  · cases token <;> rfl

/-- A terminal status releases the lease and dates the end of the run. -/
theorem setStatus_of_terminal (h : s ∈ PipelineRunStatus.terminalStatuses) :
    run.setStatus now s token =
      { run with
        status := s, stage := stageForStatus s, updatedAt := now, finishedAt := some now,
        workerId := none, leaseToken := none, leaseExpiresAt := none } := by
  simp only [setStatus, if_pos h]

/-- Any other status only keeps the presented lease. -/
theorem setStatus_of_not_terminal (h : s ∉ PipelineRunStatus.terminalStatuses) :
    run.setStatus now s token =
      { run with
        status := s, stage := stageForStatus s, updatedAt := now,
        leaseToken := token.or run.leaseToken } := by
  simp only [setStatus, if_neg h]
  cases token <;> rfl

end SetStatus

/-- The state machine either refuses the move or sets the status. -/
theorem applyTransition_ok_iff (now : Time) (run next : PipelineRun) (s : PipelineRunStatus)
    (token : Option Token) :
    run.applyTransition now s token = .ok next ↔
      s ∈ run.status.allowedTransitions ∧ next = run.setStatus now s token := by
  unfold applyTransition
  by_cases h : s ∈ run.status.allowedTransitions
  · rw [if_neg (not_not.2 h), Except.ok.injEq]
    exact ⟨fun e => ⟨h, e.symm⟩, fun e => e.2.symm⟩
  · rw [if_pos h]
    exact iff_of_false (by simp) fun hn => h hn.1

/-- The row is leased under `token`, and the lease has not expired. -/
def LeaseHeld (now : Time) (run : PipelineRun) (token : Token) : Prop :=
  run.leaseToken = some token ∧ ∀ expires, run.leaseExpiresAt = some expires → now < expires

/-- The lease check passes exactly for the row's token before its expiry. -/
theorem refreshAndRequireLease_ok_iff (now : Time) (run : PipelineRun) (token : Token) :
    run.refreshAndRequireLease now token = .ok () ↔ run.LeaseHeld now token := by
  unfold refreshAndRequireLease requireLease LeaseHeld
  by_cases ht : run.leaseToken = some token
  · rw [if_neg (not_not.2 ht)]
    rcases he : run.leaseExpiresAt with _ | expires
    · simp [ht, bind, Except.bind]
    · by_cases hle : expires ≤ now
      · simp [ht, hle, bind, Except.bind]
      · simp [ht, hle, bind, Except.bind, Int.not_le.1 hle]
  · rw [if_pos ht]
    simp [ht, bind, Except.bind]

/-- A lease-guarded call that returns was made by the holder of the lease. -/
theorem guarded_ok_iff {α : Type} {now : Time} {run : PipelineRun} {token : Token}
    {rest : Except Exn α} {a : α} :
    (run.refreshAndRequireLease now token >>= fun _ => rest) = .ok a ↔
      run.LeaseHeld now token ∧ rest = .ok a := by
  rw [bind_eq_ok, ← refreshAndRequireLease_ok_iff]
  exact ⟨fun ⟨_, h, hr⟩ => ⟨h, hr⟩, fun ⟨h, hr⟩ => ⟨(), h, hr⟩⟩

/-- Any other lease-guarded call raises a conflict before it does anything. -/
theorem guarded_error {α : Type} {now : Time} {run : PipelineRun} {token : Token}
    (h : ¬ run.LeaseHeld now token) (rest : Except Exn α) :
    ∃ message, (run.refreshAndRequireLease now token >>= fun _ => rest) =
      .error (.runConflict message) := by
  unfold refreshAndRequireLease requireLease
  by_cases ht : run.leaseToken = some token
  · rcases he : run.leaseExpiresAt with _ | expires
    · exact absurd ⟨ht, by simp [he]⟩ h
    · have hle : expires ≤ now := Int.not_lt.1 fun hlt => h ⟨ht, by simpa [he] using hlt⟩
      exact ⟨_, by simp only [ht, ne_eq, not_true, if_false, hle, if_true]; rfl⟩
  · exact ⟨_, by rw [if_pos ht]; rfl⟩

end PipelineRun

end DataMover
