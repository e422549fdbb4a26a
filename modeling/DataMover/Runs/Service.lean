import DataMover.Runs.State

/-!
# The run service

The functions of `pipeline_runs.py`.  A call that works on one claimed run is a function of the time
and of the row the database holds: every such call refreshes the row before it decides anything, and a
call that raises is rolled back by its caller, so it leaves the row as it was.  `enqueue_run` and
`claim_run` choose a row, so they are functions of the table.
-/

namespace DataMover

open PipelineRunStatus

namespace PipelineRun

/-! ## Failure facts and reconciliation -/

/-- `_failure_requires_reconciliation`. -/
def failureRequiresReconciliation (run : PipelineRun) : ErrorCode → Bool
  | .known .partialWrite | .known .publishUncertain | .known .verificationFailed
  | .known .workerLost => true
  | .known .runTimeout | .known .internalError =>
    run.loadedRows != 0 || decide (run.stage ∈ [Stage.transfer, .verify])
  | .known _ => false
  | .unrecognized _ _ =>
    run.loadedRows != 0 ||
      decide (run.stage ∈ [Stage.loading, .transfer, .verifying, .verify])

/-- `_failure_data_impact`. -/
def failureDataImpact (run : PipelineRun) (code : ErrorCode) (needsReconciliation : Bool) :
    DataImpact :=
  if needsReconciliation then .uncertain
  else if code = .known .cancelledByUser then
    if run.loadedRows != 0 then .uncertain else .unchanged
  else .unchanged

/-- `_failure_facts`. -/
def failureFacts (R : Redaction) (run : PipelineRun) (code : ErrorCode) (impact : DataImpact)
    (reconciliationRequired : Bool) (lastSafeStage : Option Stage) : Document :=
  R.mapping ((loadsDocument run.verificationJson).update [
    ("failure_code", .str code.value),
    ("data_impact", .str impact.value),
    ("reconciliation_required", .bool reconciliationRequired),
    ("last_safe_stage", .str ((lastSafeStage.or run.lastSafeStage).getD run.stage).value),
    ("loaded_rows", .int run.loadedRows)])

/-- `str(value or "").casefold() == "uncertain"` for a fact read back from a document: only a text
can match, and only the ASCII letters fold to the letters of the word. -/
def saysUncertain : Option Json → Bool
  | some (.str s) => decide (s.toList.map Char.toLower = "uncertain".toList)
  | _ => false

/-- `_run_requires_reconciliation_review`. -/
def requiresReconciliationReview (run : PipelineRun) : Bool :=
  if run.status = .failedNeedsReconciliation then true
  else if run.reconciliationRequired then true
  else match loads run.verificationJson with
    | some (.obj facts) =>
      if run.dataImpact = some .uncertain then true
      else if saysUncertain (Document.get facts "data_impact") then true
      else if ((Document.get facts "reconciliation_required").map Json.truthy).getD false then true
      else if run.status ∈ [failed, cancelled] then
        -- none of the known safety keys is present
        !((Document.get facts "data_impact").isSome ||
          (Document.get facts "reconciliation_required").isSome ||
          (Document.get facts "last_safe_stage").isSome)
      else false
    | _ => decide (run.status ∈ [failed, cancelled])

/-- `_reconciliation_reviewed`. -/
def reconciliationReviewed (run : PipelineRun) : Bool :=
  run.reconciliationReviewedAt.isSome ||
    match loads run.verificationJson with
    | some (.obj facts) => ((Document.get facts "reconciliation_reviewed_at").map Json.truthy).getD false
    | _ => false

/-- The rows that make `enqueue_run` refuse the pipeline. -/
def unresolved (run : PipelineRun) : Bool :=
  decide (run.status ∈ [failed, failedNeedsReconciliation, cancelled]) &&
    run.requiresReconciliationReview && !run.reconciliationReviewed

/-- `isinstance(value, int)` of a parsed value, where a boolean is an integer too. -/
def intValue : Option Json → Option Int
  | some (.int n) => some n
  | some (.bool b) => some (if b then 1 else 0)
  | _ => none

/-- A finding with a selected action. -/
def hasAction : Json → Bool
  | .obj finding => ((Document.get finding "action").map Json.truthy).getD false
  | _ => false

/-- `execution_outcome` of a guardrail review, from the rows that went through its actions. -/
def executionOutcome (run : PipelineRun) (document : Document) : String :=
  let hasSelectedAction := match Document.get document "findings" with
    | some (.arr findings) => findings.any hasAction
    | _ => false
  let scannedRows := max 0 ((intValue (Document.get document "scanned_rows")).getD 0)
  if !hasSelectedAction then "not_applicable"
  else if run.sourceRows = 0 then "not_started"
  else if scannedRows ≠ 0 ∧ scannedRows ≤ run.sourceRows then "completed"
  else "partial"

/-- `_record_guardrail_terminal_outcome`: the review that replaces the one in progress. -/
def terminalGuardrail (R : Redaction) (run : PipelineRun) (outcome destinationOutcome : String) :
    Option Stored :=
  match loads run.guardrailJson with
  | some (.obj document) =>
    match Document.get document "outcome" with
    | some (.str review) =>
      if review = "pending" ∨ review = "clear" then
        let executed := run.executionOutcome document
        let document : Document :=
          if review = "pending" then Document.set document "outcome" (.str outcome) else document
        let document := document.set "execution_outcome" (.str executed)
        let document := document.set "destination_outcome" (.str destinationOutcome)
        dumps (R.mapping document)
      else run.guardrailJson
    | _ => run.guardrailJson
  | _ => run.guardrailJson

/-! ## Ends of a run -/

/-- `_cancel_before_destination_work`, without the event it appends. -/
def cancelColumns (R : Redaction) (now : Time) (run : PipelineRun) (lastSafeStage : Stage)
    (message : String) : PipelineRun :=
  let run := { run with
    lastSafeStage := some lastSafeStage
    dataImpact := some .unchanged
    reconciliationRequired := false
    reconciliationReviewedAt := none
    errorCode := some (.known .cancelledByUser)
    errorSummary := some message
    retryable := false }
  let run := run.setStatus now .cancelled run.leaseToken
  { run with
    verificationJson := dumps
      (run.failureFacts R (.known .cancelledByUser) .unchanged false (some lastSafeStage)) }

/-- `_cancel_before_destination_work`. -/
def cancelBeforeDestinationWork (R : Redaction) (now : Time) (run : PipelineRun)
    (lastSafeStage : Stage) (message : String) : PipelineRun :=
  (run.cancelColumns R now lastSafeStage message).appendEvent R now message (some .cancelled)

/-- `request_cancel` on the row of the caller, as one atomic call. -/
def requestCancel (R : Redaction) (now : Time) (run : PipelineRun) : PipelineRun :=
  if run.Terminal then run
  else
    let run := { run with cancelRequestedAt := some now }
    if run.status = .queued then
      run.cancelBeforeDestinationWork R now run.stage "Run cancelled before a worker claimed it."
    else run.appendEvent R now "Cancellation requested." (some run.stage)

/-- `record_reconciliation_review` on the row of the caller; `iso` prints a time. -/
def recordReconciliationReview (R : Redaction) (iso : Time → String) (now : Time)
    (run : PipelineRun) : Except Exn PipelineRun :=
  if !run.requiresReconciliationReview then
    .error (.value "This pipeline run does not require reconciliation review.")
  else
    let verification := (loadsDocument run.verificationJson).set "reconciliation_reviewed_at"
      (.str (iso now))
    let run := { run with
      reconciliationReviewedAt := some now
      verificationJson := dumps (R.mapping verification) }
    .ok (run.appendEvent R now "Operator recorded reconciliation review." (some .reconcile))

/-- The arguments of `fail_run`, except the diagnostics it only logs. -/
structure FailArgs where
  code : ErrorCode
  summary : String
  retryable : Bool := false
  needsReconciliation : Bool := false
  dataImpact : Option DataImpact := none
  verificationFacts : Option Document := none

/-- `effective_needs_reconciliation` of `fail_run`. -/
def effectiveNeedsReconciliation (run : PipelineRun) (a : FailArgs) : Bool :=
  if a.dataImpact = some .rolledBack then false
  else a.needsReconciliation || run.failureRequiresReconciliation a.code

/-- `resolved_impact` of `fail_run`. -/
def resolvedImpact (run : PipelineRun) (a : FailArgs) : DataImpact :=
  a.dataImpact.getD (run.failureDataImpact a.code (run.effectiveNeedsReconciliation a))

/-- `facts.update(redact_mapping(verification_facts))`, when there are any. -/
def addVerificationFacts (R : Redaction) (facts : Document) : Option Document → Document
  | some extra => if extra.isEmpty then facts else facts.update (R.mapping extra)
  | none => facts

/-- The part of `fail_run` after its lease check. -/
def recordFailure (R : Redaction) (now : Time) (run : PipelineRun) (a : FailArgs)
    (leaseToken : Option Token) : PipelineRun :=
  let failureStage := run.stage
  let needs := run.effectiveNeedsReconciliation a
  let impact := run.resolvedImpact a
  let guardrail := run.terminalGuardrail R
    (if needs then "reconciliation_required" else "failed")
    (if needs then "reconciliation_required"
      else if impact = .rolledBack then "rolled_back"
      else if impact = .unchanged then "unchanged"
      else "uncertain")
  let run := { run with
    guardrailJson := guardrail
    errorCode := some a.code
    errorSummary := some (clip 500 (R.text a.summary))
    retryable := a.retryable && !needs
    lastSafeStage := some failureStage
    dataImpact := some impact
    reconciliationRequired := needs
    reconciliationReviewedAt := none }
  let run := run.setStatus now (if needs then .failedNeedsReconciliation else .failed) leaseToken
  let facts := run.failureFacts R a.code impact needs (some failureStage)
  let run := { run with verificationJson := dumps (addVerificationFacts R facts a.verificationFacts) }
  let summary := clip 500 (R.text a.summary)
  run.appendEvent R now (if summary = "" then "The transfer failed." else summary)
    (some failureStage) .error

/-- `fail_run`. -/
def failRun (R : Redaction) (now : Time) (run : PipelineRun) (a : FailArgs)
    (leaseToken : Option Token) : Except Exn PipelineRun := do
  if let some token := leaseToken then run.refreshAndRequireLease now token
  return run.recordFailure R now a leaseToken

/-- The part of `cancel_claimed_run` after its lease check. -/
def recordCancellation (R : Redaction) (now : Time) (run : PipelineRun)
    (dataImpact : Option DataImpact) (leaseToken : Token) : PipelineRun :=
  let impact := dataImpact.getD (if run.loadedRows != 0 then .uncertain else .unchanged)
  let failureStage := run.stage
  let needs := decide (impact = .uncertain)
  let guardrail := run.terminalGuardrail R
    (if needs then "reconciliation_required" else "cancelled")
    (if needs then "reconciliation_required"
      else if impact = .rolledBack then "rolled_back" else "unchanged")
  let run := { run with
    guardrailJson := guardrail
    lastSafeStage := some failureStage
    dataImpact := some impact
    reconciliationRequired := needs
    reconciliationReviewedAt := none
    errorCode := some (.known .cancelledByUser)
    errorSummary := some "The transfer was cancelled." }
  let run := run.setStatus now (if needs then .failedNeedsReconciliation else .cancelled) leaseToken
  let run := { run with
    verificationJson := dumps
      (run.failureFacts R (.known .cancelledByUser) impact needs (some failureStage)) }
  run.appendEvent R now
    (if needs then "Run cancelled; inspect the destination before retrying." else "Run cancelled.")
    (some (if needs then .reconcile else .cancelled)) (if needs then .error else .info)

/-- `cancel_claimed_run`. -/
def cancelClaimedRun (R : Redaction) (now : Time) (run : PipelineRun)
    (dataImpact : Option DataImpact) (leaseToken : Token) : Except Exn PipelineRun := do
  run.refreshAndRequireLease now leaseToken
  return run.recordCancellation R now dataImpact leaseToken

/-- `block_run`. -/
def blockRun (R : Redaction) (now : Time) (run : PipelineRun) (summary : String)
    (guardrail : Document) (leaseToken : Token) : Except Exn PipelineRun := do
  run.refreshAndRequireLease now leaseToken
  let errorSummary := clip 500 (R.text summary)
  let run := { run with
    guardrailJson := dumps (R.mapping guardrail)
    errorCode := some (.known .sensitiveDataGuardrailBlocked)
    errorSummary := some errorSummary
    retryable := false
    lastSafeStage := some .guardrails
    dataImpact := some .unchanged
    reconciliationRequired := false
    reconciliationReviewedAt := none }
  let run ← run.applyTransition now .blocked leaseToken
  let run := { run with
    verificationJson := dumps (run.failureFacts R (.known .sensitiveDataGuardrailBlocked)
      .unchanged false (some .guardrails)) }
  return run.appendEvent R now (if errorSummary = "" then summary else errorSummary)
    (some .guardrails) .warning

/-- `block_compute_readiness`. -/
def blockComputeReadiness (R : Redaction) (now : Time) (run : PipelineRun) (summary : String)
    (leaseToken : Token) : Except Exn PipelineRun := do
  run.refreshAndRequireLease now leaseToken
  let lastSafeStage := run.stage
  let errorSummary := clip 500 (R.text summary)
  let run := { run with
    errorCode := some (.known .computeNotReady)
    errorSummary := some errorSummary
    retryable := false
    lastSafeStage := some lastSafeStage
    dataImpact := some .unchanged
    reconciliationRequired := false
    reconciliationReviewedAt := none }
  let run := run.setStatus now .blocked leaseToken
  let run := { run with
    verificationJson := dumps
      (run.failureFacts R (.known .computeNotReady) .unchanged false (some lastSafeStage)) }
  return run.appendEvent R now (if errorSummary = "" then summary else errorSummary)
    (some .computeStartup) .warning

/-- The documents of `complete_run`; an absent one is `{}`, or leaves the guardrail review alone. -/
structure CompleteArgs where
  sourceManifest : Document := []
  destinationManifest : Document := []
  verification : Document := []
  guardrail : Option Document := none

/-- `str(verification.get("verification_level", "")).casefold() == "exact"`. -/
def verifiedExactly (verification : Document) : Bool :=
  match verification.get "verification_level" with
  | some (.str s) => decide (s.toList.map Char.toLower = "exact".toList)
  | _ => false

/-- `complete_run`. -/
def completeRun (R : Redaction) (now : Time) (run : PipelineRun) (a : CompleteArgs)
    (leaseToken : Token) : Except Exn PipelineRun := do
  run.refreshAndRequireLease now leaseToken
  let run := { run with
    sourceManifestJson := dumps (R.mapping a.sourceManifest)
    destinationManifestJson := dumps (R.mapping a.destinationManifest)
    verificationJson := dumps (R.mapping a.verification)
    guardrailJson := match a.guardrail with
      | some guardrail => dumps (R.mapping guardrail)
      | none => run.guardrailJson
    sourceRowsMeasured := true
    loadedRowsMeasured := true
    lastSafeStage := some run.stage
    dataImpact := some (if verifiedExactly a.verification then .verified else .changed)
    reconciliationRequired := false
    reconciliationReviewedAt := none }
  let run := run.setStatus now .succeeded leaseToken
  return run.appendEvent R now "Transfer succeeded." (some .verify)

/-! ## Progress of a claimed run -/

/-- `heartbeat`. -/
def heartbeat (now : Time) (run : PipelineRun) (leaseSeconds : Int) (leaseToken : Token) :
    Except Exn PipelineRun := do
  run.refreshAndRequireLease now leaseToken
  return { run with heartbeatAt := some now, leaseExpiresAt := some (now + seconds leaseSeconds) }

/-- `renew_lease`: a compare-and-set that reports whether it matched the row. -/
def renewLease (now : Time) (run : PipelineRun) (leaseSeconds : Int) (leaseToken : Token) :
    Bool × PipelineRun :=
  if run.leaseToken = some leaseToken ∧ run.WorkerOwned ∧ ∃ e ∈ run.leaseExpiresAt, now < e then
    (true, { run with
      heartbeatAt := some now
      leaseExpiresAt := some (now + seconds leaseSeconds)
      updatedAt := now })
  else (false, run)

/-- `transition`. -/
def transition (R : Redaction) (now : Time) (run : PipelineRun) (status : PipelineRunStatus)
    (message : String) (leaseToken : Token) : Except Exn PipelineRun := do
  run.refreshAndRequireLease now leaseToken
  let run ← run.applyTransition now status leaseToken
  return if message = "" then run else run.appendEvent R now message (some run.stage)

/-- The increments of `add_counters`. -/
structure Counters where
  sourceRows : Option Nat := none
  sourceBytes : Nat := 0
  loadedRows : Option Nat := none
  loadedBytes : Nat := 0

/-- `add_counters`. -/
def addCounters (now : Time) (run : PipelineRun) (c : Counters) (leaseToken : Token) :
    Except Exn PipelineRun := do
  run.refreshAndRequireLease now leaseToken
  return { run with
    sourceRows := run.sourceRows + c.sourceRows.getD 0
    sourceRowsMeasured := run.sourceRowsMeasured || c.sourceRows.isSome
    sourceBytes := run.sourceBytes + c.sourceBytes
    loadedRows := run.loadedRows + c.loadedRows.getD 0
    loadedRowsMeasured := run.loadedRowsMeasured || c.loadedRows.isSome
    loadedBytes := run.loadedBytes + c.loadedBytes }

/-- `len(findings)` of a stored guardrail review. -/
def findingCount (document : Document) : Nat :=
  match Document.get document "findings" with
  | some (.arr findings) => findings.length
  | _ => 0

/-- `record_guardrail_review`. -/
def recordGuardrailReview (R : Redaction) (now : Time) (run : PipelineRun) (guardrail : Document)
    (leaseToken : Token) : Except Exn PipelineRun := do
  run.refreshAndRequireLease now leaseToken
  let safeDocument := R.mapping guardrail
  let count := findingCount safeDocument
  let run := { run with guardrailJson := dumps safeDocument }
  return run.appendEvent R now
    ("Sensitive-data scan completed: " ++ toString count ++ " finding(s) recorded.")
    (some .guardrails) (if count = 0 then .info else .warning)

/-! ## Claiming and requeueing -/

/-- Statuses of a `DatabricksComputeAttempt`. -/
inductive AttemptStatus where
  | starting
  | ready
  | failed
  | stale
  | timedOut
  | cancelled
  deriving DecidableEq, Repr

/-- The columns of a `DatabricksComputeAttempt` that the run service reads. -/
structure ComputeAttempt where
  id : String
  userId : String
  connectionGeneration : String
  status : AttemptStatus
  deadlineAt : Time

/-- The checks of `request_compute_start` on the attempt that a run is already waiting for. -/
def checkComputeAttempt (now : Time) (run : PipelineRun)
    (attempts : String → Option ComputeAttempt) (userId connectionGeneration : String)
    (deadline : Time) : Except Exn Unit :=
  if deadline ≤ now then
    .error (.connector { code := .computeNotReady, retryable := false, summary :=
      "Databricks compute did not become ready before the startup deadline. Retry after checking compute status." })
  else match run.databricksComputeAttemptId.filter (· ≠ "") with
    | none => .ok ()
    | some id =>
      match (attempts id).filter fun attempt =>
          attempt.userId = userId ∧ attempt.connectionGeneration = connectionGeneration with
      | none => .error (.connector { code := .credentialsStale, retryable := false, summary :=
          "The Databricks startup attempt no longer matches this connection." })
      | some attempt =>
        if attempt.status ∉ [AttemptStatus.starting, .ready] then
          .error (.connector { code := .computeNotReady, retryable := false, summary :=
            "The Databricks startup attempt ended before compute became ready. Check status and start it explicitly before retrying." })
        else .ok ()

/-- `request_compute_start` on the run of a worker: the columns it commits before it asks the
provider; `reserved` is the attempt of `create_compute_attempt`. -/
def requestComputeStart (now : Time) (run : PipelineRun) (attempts : String → Option ComputeAttempt)
    (userId connectionGeneration : String) (reserved : ComputeAttempt) (leaseToken : Token) :
    Except Exn PipelineRun := do
  run.refreshAndRequireLease now leaseToken
  if run.userId ≠ userId then
    .error (.connector { code := .permissionDenied, retryable := false, summary :=
      "The Databricks startup request is not owned by this run." })
  else if run.stage ≠ .authenticate then
    .error (.connector { code := .computeNotReady, retryable := false, summary :=
      "Databricks compute stopped after source processing began. Review the run before retrying." })
  else match run.databricksComputeStartDeadlineAt with
    | some deadline =>
      (fun _ => run) <$> run.checkComputeAttempt now attempts userId connectionGeneration deadline
    | none => .ok { run with
        databricksComputeStartDeadlineAt := some reserved.deadlineAt
        databricksComputeAttemptId :=
          if reserved.userId = userId then some reserved.id else run.databricksComputeAttemptId }

/-- The deadline that `defer_run_for_databricks_compute` waits for, `none` when it must not wait. -/
def deferralDeadline (now : Time) (run : PipelineRun)
    (attempts : String → Option ComputeAttempt) : Option Time :=
  match run.databricksComputeStartDeadlineAt with
  | none => none
  | some deadline =>
    if run.stage ≠ .authenticate ∨ deadline ≤ now then none
    else match run.databricksComputeAttemptId.filter (· ≠ "") with
      | none => some deadline
      | some id =>
        match attempts id with
        | none => none
        | some attempt =>
          if attempt.status ∉ [AttemptStatus.starting, .ready] then none
          else if min deadline attempt.deadlineAt ≤ now then none
          else some (min deadline attempt.deadlineAt)

/-- `defer_run_for_databricks_compute`: whether the run was released, and the row. -/
def deferRunForDatabricksCompute (R : Redaction) (now : Time) (run : PipelineRun)
    (attempts : String → Option ComputeAttempt) (startupPollSeconds : Int) (leaseToken : Token) :
    Except Exn (Bool × PipelineRun) := do
  run.refreshAndRequireLease now leaseToken
  if run.cancelRequestedAt.isSome then
    return (true, run.cancelBeforeDestinationWork R now run.stage
      "Run cancelled while waiting for Databricks compute readiness.")
  match run.deferralDeadline now attempts with
  | none => return (false, run)
  | some deadline =>
    let run := { run with
      databricksComputeStartDeadlineAt := some deadline
      status := .queued
      stage := .waitingForCompute
      workerId := none
      leaseToken := none
      leaseExpiresAt := none
      heartbeatAt := none
      nextAttemptAt := some (min (now + seconds startupPollSeconds) deadline) }
    return (true, run.appendEvent R now
      "Waiting for the authorized Databricks compute startup to become SQL ready."
      (some .computeStartup))

/-- The row condition of the query of `claim_run`, for the row of an active user. -/
def claimable (now : Time) (run : PipelineRun) : Bool :=
  (decide (run.status = .queued) && (run.nextAttemptAt.all (· ≤ now))) ||
    (decide run.WorkerOwned && run.leaseExpiresAt.any (· ≤ now))

/-- The requeue of `claim_run` after an expired lease before destination work. -/
def requeue (R : Redaction) (now : Time) (run : PipelineRun) : PipelineRun :=
  let run := { run with
    status := .queued
    stage := stageForStatus .queued
    workerId := none
    leaseToken := none
    leaseExpiresAt := none }
  run.appendEvent R now "Stale worker lease recovered; run requeued." (some .queued)

/-- The failure that `claim_run` records for a run whose worker lost its lease while writing. -/
def workerLost : FailArgs where
  code := .known .workerLost
  summary := "The worker lost the lease after destination writes began."
  needsReconciliation := true

/-- The end of `claim_run`: a cancellation that was requested meanwhile, or the new lease. -/
def lease (R : Redaction) (now : Time) (run : PipelineRun) (cancellationStage : Stage)
    (workerId : String) (leaseSeconds : Int) (newToken : Token) :
    Except Exn (PipelineRun × Option Token) := do
  if run.cancelRequestedAt.isSome then
    return (run.cancelBeforeDestinationWork R now cancellationStage
      "Run cancelled before destination writes began.", none)
  let run := { run with
    workerId := some workerId
    leaseToken := some newToken
    leaseExpiresAt := some (now + seconds leaseSeconds)
    heartbeatAt := some now
    nextAttemptAt := none
    startedAt := run.startedAt.or (some now) }
  let run ← run.applyTransition now .validating newToken
  return (run.appendEvent R now "Worker claimed the run." (some .authenticate), some newToken)

/-- `claim_run` on the row its query selected: the row it leaves, and the lease when there is one. -/
def claim (R : Redaction) (now : Time) (run : PipelineRun) (workerId : String) (leaseSeconds : Int)
    (newToken : Token) : Except Exn (PipelineRun × Option Token) :=
  if run.WorkerOwned ∧ run.leaseExpiresAt.isSome then
    if run.stage ∈ [Stage.transfer, .verify] then
      return (run.recordFailure R now workerLost none, none)
    else (run.requeue R now).lease R now run.stage workerId leaseSeconds newToken
  else run.lease R now run.stage workerId leaseSeconds newToken

end PipelineRun

/-! ## The table -/

/-- The columns of `pipeline_definitions` that `enqueue_run` reads. -/
structure PipelineDefinition where
  id : String
  userId : String

/-- The tables of the run service. -/
structure Database where
  pipelines : List PipelineDefinition
  runs : List PipelineRun
  primaryKey : (runs.map PipelineRun.id).Nodup

namespace Database

/-- `db.get(PipelineRun, run_id)`. -/
def getRun (db : Database) (runId : String) : Option PipelineRun :=
  db.runs.find? fun run => run.id = runId

theorem map_id_replace (runs : List PipelineRun) (run : PipelineRun) :
    (runs.map fun r => if r.id = run.id then run else r).map PipelineRun.id =
      runs.map PipelineRun.id := by
  rw [List.map_map]
  refine List.map_congr_left fun r _ => ?_
  by_cases h : r.id = run.id
  · simp [h]
  · simp [h]

/-- Write a row back by its primary key. -/
def putRun (db : Database) (run : PipelineRun) : Database where
  pipelines := db.pipelines
  runs := db.runs.map fun r => if r.id = run.id then run else r
  primaryKey := by rw [map_id_replace]; exact db.primaryKey

/-- Insert a row whose id is not taken. -/
def insertRun (db : Database) (run : PipelineRun) (fresh : run.id ∉ db.runs.map PipelineRun.id) :
    Database where
  pipelines := db.pipelines
  runs := db.runs ++ [run]
  primaryKey := by
    rw [List.map_append, List.nodup_append]
    refine ⟨db.primaryKey, List.pairwise_singleton _ _, ?_⟩
    rintro a ha b hb rfl
    rw [List.map_singleton, List.mem_singleton] at hb
    exact fresh (hb ▸ ha)

/-- `owned_run`. -/
def ownedRun (db : Database) (userId runId : String) : Except Exn PipelineRun :=
  match db.getRun runId with
  | some run =>
    if run.userId ≠ userId then .error (.lookup "That pipeline run is no longer available.")
    else .ok run
  | none => .error (.lookup "That pipeline run is no longer available.")

/-- The order of times in the queries. -/
local instance : Preorder Time := Int.instLinearOrder.toPreorder

/-- The row that the query of `claim_run` selects: the claimable row of an active user that was
queued first, ties broken by id. -/
def selectClaimable (db : Database) (now : Time) (active : String → Bool) (runId : Option String) :
    Option PipelineRun :=
  (db.runs.filter fun run =>
    run.claimable now && active run.userId && runId.all fun id => decide (run.id = id)).argmin
      fun run => toLex (run.queuedAt, run.id)

/-- `claim_run`. -/
def claimRun (R : Redaction) (now : Time) (db : Database) (active : String → Bool)
    (workerId : String) (leaseSeconds : Int) (runId : Option String) (newToken : Token) :
    Except Exn (Database × Option (PipelineRun × Token)) :=
  match db.selectClaimable now active runId with
  | none => .ok (db, none)
  | some run => do
    let (run, leased) ← run.claim R now workerId leaseSeconds newToken
    return (db.putRun run, leased.map fun token => (run, token))

/-- The arguments of `enqueue_run`; `newId` is the id of the row it may insert. -/
structure EnqueueArgs where
  userId : String
  pipelineId : String
  legacyUnsupported : Bool := false
  snapshotJson : String
  routeAllowed : Bool
  writerEnabled : Bool
  attempt : Int := 1
  parentRunId : Option String := none
  idempotencyToken : Option String := none
  newId : String

/-- The runs of the caller's pipeline. -/
def runsOf (db : Database) (userId pipelineId : String) : List PipelineRun :=
  db.runs.filter fun run =>
    decide (run.userId = userId) && decide (run.pipelineDefinitionId = some pipelineId)

/-- `latest_pipeline_run`: the last created row, ties broken by id. -/
def latestRun (db : Database) (userId pipelineId : String) : Option PipelineRun :=
  (db.runsOf userId pipelineId).argmax fun run => toLex (run.createdAt, run.id)

/-- `reviewed_parent`: the latest run, when it was uncertain and has been reviewed. -/
def reviewedParent (db : Database) (userId pipelineId : String) : Option PipelineRun :=
  match db.latestRun userId pipelineId with
  | none => none
  | some latest =>
    (db.runsOf userId pipelineId).find? fun run =>
      decide (run.status ∈ [failed, failedNeedsReconciliation, cancelled]) &&
        run.requiresReconciliationReview && run.reconciliationReviewed && decide (run.id = latest.id)

/-- `text or None`. -/
def truthyText (text : Option String) : Option String := text.filter (· ≠ "")

/-- The row that `enqueue_run` builds. -/
def queuedRun (db : Database) (now : Time) (a : EnqueueArgs) : PipelineRun :=
  let parent := db.reviewedParent a.userId a.pipelineId
  { id := a.newId
    pipelineDefinitionId := some a.pipelineId
    userId := a.userId
    definitionSnapshotJson := a.snapshotJson
    attempt := max a.attempt ((parent.map fun run => run.attempt + 1).getD a.attempt)
    parentRunId := (truthyText a.parentRunId).or (parent.map (·.id))
    idempotencyToken := a.idempotencyToken
    queuedAt := now
    createdAt := now
    updatedAt := now }

/-- The row that `enqueue_run` inserts, with its first event. -/
def newRun (R : Redaction) (now : Time) (db : Database) (a : EnqueueArgs) : PipelineRun :=
  (db.queuedRun now a).appendEvent R now "Run queued." (some .queued)

/-- `enqueue_run`. -/
def enqueueRun (R : Redaction) (now : Time) (db : Database) (a : EnqueueArgs) :
    Except Exn (Database × PipelineRun) :=
  match db.pipelines.find? fun p => p.id = a.pipelineId with
  | none => .error (.lookup "That pipeline is no longer available.")
  | some pipeline =>
    if pipeline.userId ≠ a.userId then .error (.lookup "That pipeline is no longer available.")
    else if (db.runsOf a.userId a.pipelineId).any PipelineRun.unresolved then
      .error (.value "The previous transfer has uncertain destination state. Record reconciliation review before retrying.")
    else if a.legacyUnsupported then
      .error (.value "That saved pipeline uses an unsupported provider and cannot be run.")
    else if !a.routeAllowed then
      .error (.value "That saved pipeline uses an unsupported transfer route.")
    else if !a.writerEnabled then
      .error (.value "That saved pipeline's destination writer is not enabled.")
    else
      -- the unique constraint on (user_id, idempotency_token) makes the insert a no-op
      match (truthyText a.idempotencyToken).bind fun token =>
        db.runs.find? fun run => run.userId = a.userId ∧ run.idempotencyToken = some token with
      | some existing => .ok (db, existing)
      | none =>
        if taken : (db.newRun R now a).id ∈ db.runs.map PipelineRun.id then
          .error (.other "IntegrityError")
        else .ok (db.insertRun (db.newRun R now a) taken, db.newRun R now a)

end Database

end DataMover
