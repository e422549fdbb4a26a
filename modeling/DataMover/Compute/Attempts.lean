import DataMover.Runs.CancelRace

/-!
# Compute attempts

The rows of `databricks_compute_attempts` and what each function of `databricks_compute.py` writes into
one of them.  `active_key` is the fence: it is unique among the rows and null for every attempt that
has ended.
-/

namespace DataMover

open PipelineRun (AttemptStatus)

/-- A row of `databricks_compute_attempts`. -/
structure DatabricksComputeAttempt where
  id : String
  userId : String
  workspaceId : String
  computeKey : String
  activeKey : Option String
  computeKind : String
  computeId : String
  connectionGeneration : String
  status : AttemptStatus := .starting
  lastState : String := "UNKNOWN"
  pollCount : Nat := 0
  requestedAt : Time
  deadlineAt : Time
  nextPollAt : Time
  checkedAt : Option Time := none
  completedAt : Option Time := none
  leaseToken : Option String := none
  leaseExpiresAt : Option Time := none
  errorCode : Option String := none
  errorSummary : String := ""
  deriving DecidableEq

/-- The settings of the startup, with the library functions that its texts and delays need. -/
structure StartupSettings where
  startupTimeoutSeconds : Int
  startupPollSeconds : Int
  startupMaxPollSeconds : Int
  /-- `text.upper()`. -/
  upper : String → String
  /-- `int(delay * (0.9 + int(compute_key[:2], 16) / 2550))`. -/
  jittered : Int → String → Int

/-- The entries of the credentials that a start reads. -/
structure ComputeCredentials where
  /-- `databricks_workspace_id(workspace_url)`. -/
  workspaceId : String
  computeKind : String
  computeId : String
  connectionGeneration : String
  /-- `_hash_key([workspace_id, compute_kind, compute_id])`. -/
  computeKey : String

/-- What `start_compute` returns. -/
structure StartResult where
  outcome : String
  state : String
  kind : String
  deriving DecidableEq

/-- The statuses of an attempt that has ended. -/
def endedStatuses : List AttemptStatus := [.ready, .failed, .stale, .timedOut]

namespace DatabricksComputeAttempt

variable (now : Time) (a : DatabricksComputeAttempt)

/-- The row that `create_compute_attempt` inserts. -/
def reserved (settings : StartupSettings) (id userId : String) (c : ComputeCredentials) :
    DatabricksComputeAttempt where
  id := id
  userId := userId
  workspaceId := c.workspaceId
  computeKey := c.computeKey
  activeKey := some c.computeKey
  computeKind := c.computeKind
  computeId := c.computeId
  connectionGeneration := c.connectionGeneration
  requestedAt := now
  deadlineAt := now + seconds settings.startupTimeoutSeconds
  nextPollAt := now + seconds settings.startupPollSeconds

/-- `_finish`. -/
def finish (status : AttemptStatus) (state : String) (errorCode : Option String := none)
    (errorSummary : String := "") : DatabricksComputeAttempt :=
  { a with
    status := status
    lastState := clip 32 state
    activeKey := none
    completedAt := some now
    checkedAt := some now
    nextPollAt := now
    leaseToken := none
    leaseExpiresAt := none
    errorCode := errorCode
    errorSummary := clip 240 errorSummary }

/-- `_finish` at the startup deadline. -/
def timeOut : DatabricksComputeAttempt :=
  a.finish now .timedOut a.lastState (some "compute_start_timeout")
    "Databricks compute did not become SQL ready before the startup deadline."

/-- `record_start_submission`, on the locked row. -/
def recordStartSubmission (settings : StartupSettings) (result : StartResult) :
    DatabricksComputeAttempt :=
  if a.status ≠ .starting then a
  else
    let a := { a with lastState := clip 32 (settings.upper result.state), checkedAt := some now }
    if result.outcome = "already_running" then a.finish now .ready "RUNNING"
    else { a with nextPollAt := now + seconds settings.startupPollSeconds }

/-- `record_start_uncertain`, on the locked row. -/
def recordStartUncertain (error : ConnectorError) : DatabricksComputeAttempt :=
  if a.status ≠ .starting then a
  else { a with
    errorCode := some (clip 64 error.code.value)
    errorSummary := clip 240 error.summary
    nextPollAt := now }

/-- What `record_start_failure` makes of the row it has read. -/
def failStart (error : ConnectorError) : DatabricksComputeAttempt :=
  a.finish now (if error.code = .credentialsStale then .stale else .failed) a.lastState
    (some error.code.value) error.summary

/-- The `UPDATE` by primary key of a row that was read as `old` and is `new` in the session. -/
def flushChanged (old new current : DatabricksComputeAttempt) : DatabricksComputeAttempt where
  id := current.id
  userId := flush old.userId new.userId current.userId
  workspaceId := flush old.workspaceId new.workspaceId current.workspaceId
  computeKey := flush old.computeKey new.computeKey current.computeKey
  activeKey := flush old.activeKey new.activeKey current.activeKey
  computeKind := flush old.computeKind new.computeKind current.computeKind
  computeId := flush old.computeId new.computeId current.computeId
  connectionGeneration :=
    flush old.connectionGeneration new.connectionGeneration current.connectionGeneration
  status := flush old.status new.status current.status
  lastState := flush old.lastState new.lastState current.lastState
  pollCount := flush old.pollCount new.pollCount current.pollCount
  requestedAt := flush old.requestedAt new.requestedAt current.requestedAt
  deadlineAt := flush old.deadlineAt new.deadlineAt current.deadlineAt
  nextPollAt := flush old.nextPollAt new.nextPollAt current.nextPollAt
  checkedAt := flush old.checkedAt new.checkedAt current.checkedAt
  completedAt := flush old.completedAt new.completedAt current.completedAt
  leaseToken := flush old.leaseToken new.leaseToken current.leaseToken
  leaseExpiresAt := flush old.leaseExpiresAt new.leaseExpiresAt current.leaseExpiresAt
  errorCode := flush old.errorCode new.errorCode current.errorCode
  errorSummary := flush old.errorSummary new.errorSummary current.errorSummary

/-- `cancel_compute_observation`, on the locked row; `none` when it is not the owner's or not
starting. -/
def cancelObservation (userId : String) : Option DatabricksComputeAttempt :=
  if a.userId ≠ userId ∨ a.status ≠ .starting then none
  else some { a with
    status := .cancelled
    completedAt := some now
    checkedAt := some now
    nextPollAt := now
    leaseToken := none
    leaseExpiresAt := none
    errorCode := some "startup_observation_cancelled"
    errorSummary := "Data Mover readiness checks were stopped by the connection owner." }

/-- `resume_compute_observation`, on the locked row. -/
def resumeObservation (userId : String) : Option DatabricksComputeAttempt :=
  if a.userId ≠ userId ∨ a.status ≠ .cancelled ∨ a.activeKey.isNone then none
  else if a.deadlineAt ≤ now then some (a.timeOut now)
  else some { a with
    status := .starting
    nextPollAt := now
    completedAt := none
    errorCode := none
    errorSummary := "" }

/-- The conditions of the query of `claim_due_attempt`. -/
def Due : Prop :=
  a.status = .starting ∧ a.activeKey.isSome ∧ a.nextPollAt ≤ now ∧
    ∀ expires ∈ a.leaseExpiresAt, expires ≤ now

instance : Decidable (a.Due now) := inferInstanceAs (Decidable (_ ∧ _ ∧ _ ∧ _))

/-- What `claim_due_attempt` writes. -/
def leased (token : String) (leaseSeconds : Int) : DatabricksComputeAttempt :=
  { a with leaseToken := some token, leaseExpiresAt := some (now + seconds (max 15 leaseSeconds)) }

/-- The errors of an observation that end the attempt. -/
def fatalObservations : List TransferErrorCode :=
  [.authenticationFailed, .credentialsMissing, .credentialsStale, .endpointBlocked,
    .permissionDenied, .unsupportedType]

/-- The end of `observe_attempt`: the deadline, or the next poll. -/
def keepPolling (settings : StartupSettings) : DatabricksComputeAttempt :=
  if a.deadlineAt ≤ now then a.timeOut now
  else
    let base := max 1 settings.startupPollSeconds
    let delay := min (max base settings.startupMaxPollSeconds) (base * 2 ^ min a.pollCount 8)
    { a with nextPollAt := now + seconds (max 1 (settings.jittered delay a.computeKey)) }

/-- `observe_attempt` with an observed state. -/
def observeState (settings : StartupSettings) (state : String) : DatabricksComputeAttempt :=
  if state = "" then a.keepPolling now settings
  else
    let current := clip 32 (settings.upper state)
    let a := { a with lastState := current, errorCode := none, errorSummary := "" }
    if current ∈ ["RUNNING", "RESIZING"] then a.finish now .ready current
    else if current ∈ ["INTERNAL_ERROR", "ERROR", "FAILED", "DELETED"] then
      a.finish now .failed current (some "compute_start_failed")
        "Databricks reported that the selected compute could not start."
    else a.keepPolling now settings

/-- `observe_attempt`, on the locked row; `none` when the poller has lost its lease. -/
def observe (settings : StartupSettings) (token : String) (state : String)
    (error : Option ConnectorError) : Option DatabricksComputeAttempt :=
  if a.status ≠ .starting ∨ a.leaseToken ≠ some token then none
  else
    let a := { a with
      checkedAt := some now, leaseToken := none, leaseExpiresAt := none
      pollCount := a.pollCount + 1 }
    match error with
    | none => some (a.observeState now settings state)
    | some e =>
      let a := { a with
        errorCode := some (clip 64 e.code.value), errorSummary := clip 240 e.summary }
      if e.code ∈ fatalObservations then some (a.failStart now e)
      else some (a.observeState now settings state)

/-- `_invalidate_databricks_compute_attempts`, on one row. -/
def invalidate (userId : String) : DatabricksComputeAttempt :=
  if a.userId ≠ userId ∨ a.activeKey.isNone then a
  else { a with
    status := .stale
    activeKey := none
    completedAt := some now
    checkedAt := some now
    nextPollAt := now
    leaseToken := none
    leaseExpiresAt := none
    errorCode := some "credentials_stale"
    errorSummary := "The saved Databricks connection changed during compute startup." }

end DatabricksComputeAttempt

end DataMover
