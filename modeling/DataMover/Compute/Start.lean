import DataMover.Compute.Attempts
import DataMover.Pool

/-!
# Starting compute

`request_compute_start` and the start button of the connection page as programs.  A request is one
transaction, one read or one call of the provider; `record_start_failure` is a read without a lock and
a later commit of the columns it changed.
-/

namespace DataMover

open PipelineRun (AttemptStatus)
open Program (lift)

/-! ## Requests -/

/-- What the calls ask the database and the provider for. -/
inductive ComputeRequest where
  /-- The checks of `request_compute_start` on its run; `false` when the run already waits. -/
  | enterRun
  /-- The attempt whose `active_key` is the key. -/
  | findActive (computeKey : String)
  /-- The insertion of `create_compute_attempt` with its commit; `none` for an `IntegrityError`. -/
  | insertAttempt (userId : String) (c : ComputeCredentials)
  /-- The deadline and the attempt of the run, with their commit. -/
  | linkRun (attempt : DatabricksComputeAttempt)
  /-- `updated_at` of the stored Databricks connection of the user. -/
  | revision (userId : String)
  /-- Whether the connector has a `start_compute`. -/
  | resolveConnector
  | startCompute (attemptId : String)
  | recordStartSubmission (attemptId : String) (result : StartResult)
  | recordStartUncertain (attemptId : String) (error : ConnectorError)
  /-- `db.get(..., populate_existing=True)`, without a lock. -/
  | getAttempt (attemptId : String)
  /-- The commit of `record_start_failure` for the row it has read. -/
  | commitFailure (read : DatabricksComputeAttempt) (error : ConnectorError)
  /-- The update of `runtime_status` for a revision; whether it found that revision. -/
  | recordRuntimeStatus (userId : String) (revision : String)
  | cancelComputeObservation (userId attemptId : String)
  | resumeComputeObservation (userId attemptId : String)
  | claimDueAttempt (leaseSeconds : Int)
  | observeAttempt (attemptId leaseToken state : String) (error : Option ConnectorError)
  /-- The replacement or deletion of the stored Databricks connection of the user. -/
  | replaceCredentials (userId : String) (revision : Option String)

/-- What a request returns. -/
@[reducible] def ComputeRequest.Answer : ComputeRequest → Type
  | enterRun | resolveConnector | recordRuntimeStatus _ _ | cancelComputeObservation _ _
  | observeAttempt _ _ _ _ => Bool
  | findActive _ | insertAttempt _ _ | getAttempt _ => Option DatabricksComputeAttempt
  | linkRun _ | recordStartSubmission _ _ | recordStartUncertain _ _ | commitFailure _ _
  | replaceCredentials _ _ => Unit
  | revision _ | resumeComputeObservation _ _ => Option String
  | startCompute _ => StartResult
  | claimDueAttempt _ => Option (String × String)

/-- A call with its requests. -/
abbrev Starter := Program ComputeRequest.Answer Exn

/-- Make a request. -/
def demand (c : ComputeRequest) : Starter c.Answer := Program.call c

/-- Raise a `ConnectorError` that must not be retried. -/
def refuse {α : Type} (code : TransferErrorCode) (summary : String) : Starter α :=
  .throw (.connector { code, summary, retryable := false })

/-! ## Recording the result of a start -/

/-- `record_start_failure`. -/
def recordStartFailure (attemptId : String) (error : ConnectorError) : Starter Unit := do
  match ← demand (.getAttempt attemptId) with
  | none => return ()
  | some attempt =>
    if attempt.status ≠ .starting then return ()
    else demand (.commitFailure attempt error)

/-- `_start_connection_changed`. -/
def startConnectionChanged : ConnectorError where
  code := .credentialsStale
  summary := "The Databricks connection changed while compute was being started. Review the saved connection and try again."
  retryable := false

/-- `_require_current_start_connection`. -/
def requireCurrentStartConnection (attemptId : String) : Starter DatabricksComputeAttempt := do
  match ← demand (.getAttempt attemptId) with
  | none => .throw (.connector startConnectionChanged)
  | some attempt => do
    let revision ← demand (.revision attempt.userId)
    if attempt.status = .stale ∨ revision ≠ some attempt.connectionGeneration then do
      recordStartFailure attempt.id startConnectionChanged
      .throw (.connector startConnectionChanged)
    else if attempt.status ∉ [AttemptStatus.starting, .ready] then
      refuse .computeNotReady
        "The Databricks startup attempt is no longer active. Check compute status before retrying."
    else return attempt

/-- The failures of `start_compute` after which the compute may still be starting. -/
def uncertainStarts : List TransferErrorCode :=
  [.computeNotReady, .connectionTimeout, .providerUnavailable, .rateLimited]

/-! ## Reserving an attempt -/

/-- `create_compute_attempt`: the attempt, and whether this call has created it. -/
def createComputeAttempt (userId : String) (c : ComputeCredentials) :
    Starter (DatabricksComputeAttempt × Bool) := do
  if c.workspaceId = "" ∨ c.computeKind = "" ∨ c.computeId = "" ∨ c.connectionGeneration = "" then
    refuse .credentialsStale
      "The saved Databricks connection must be reviewed again before starting compute."
  else match ← demand (.findActive c.computeKey) with
    | some active => return (active, false)
    | none =>
      match ← demand (.insertAttempt userId c) with
      | some attempt => return (attempt, true)
      | none =>
        match ← demand (.findActive c.computeKey) with
        | some active => return (active, false)
        | none => .throw (.connector { code := .providerUnavailable, retryable := true, summary :=
            "Databricks startup coordination is temporarily unavailable. Retry the status check." })

/-! ## The worker's start -/

/-- The arguments of `request_compute_start`. -/
structure StartArgs where
  userId : String
  userActive : Bool
  credentials : ComputeCredentials
  startupPolicy : String := "manual"
  startupContractVerified : Bool := false
  observedState : String := ""
  /-- `pipeline_run is not None`. -/
  forRun : Bool := false
  requireOptIn : Bool := false

/-- The end of `request_compute_start`, once the provider has answered. -/
def acceptStart (userId attemptId : String) (result : StartResult) : Starter StartResult := do
  let _ ← demand (.recordStartSubmission attemptId result)
  let attempt ← requireCurrentStartConnection attemptId
  let stored ← demand (.revision userId)
  if stored ≠ some attempt.connectionGeneration then
    .throw (.connector startConnectionChanged)
  else do
    let updated ← demand (.recordRuntimeStatus userId attempt.connectionGeneration)
    if updated then return result else .throw (.connector startConnectionChanged)

/-- The clause for a `ConnectorError` of the provider. -/
def rejectStart (attempt : DatabricksComputeAttempt) (error : ConnectorError) :
    Starter StartResult := do
  let _ ← requireCurrentStartConnection attempt.id
  if error.code ∈ uncertainStarts then do
    let _ ← demand (.recordStartUncertain attempt.id error)
    return { outcome := "start_uncertain", state := attempt.lastState, kind := attempt.computeKind }
  else do
    recordStartFailure attempt.id error
    .throw (.connector error)

/-- The `try` block of `request_compute_start`. -/
def askProvider (attemptId : String) : Starter StartResult := do
  let callable ← demand .resolveConnector
  if callable then demand (.startCompute attemptId)
  else refuse .internalError "The Databricks connector does not support compute startup."

/-- `request_compute_start` for the attempt that it has created. -/
def startReserved (upper : String → String) (a : StartArgs) (attempt : DatabricksComputeAttempt) :
    Starter StartResult := do
  let revision ← demand (.revision a.userId)
  if revision.getD "" ≠ attempt.connectionGeneration then do
    let error : ConnectorError := { code := .credentialsStale, retryable := false, summary :=
      "The Databricks connection changed before compute could be started. Save the connection and try again." }
    recordStartFailure attempt.id error
    .throw (.connector error)
  else if a.observedState ≠ "" ∧ upper a.observedState ∉ ["TERMINATED", "STOPPED"] then
    acceptStart a.userId attempt.id {
      outcome := "start_submitted", state := upper a.observedState, kind := attempt.computeKind }
  else match ← (askProvider attempt.id).attempt with
    | .ok result => acceptStart a.userId attempt.id result
    | .error (.connector error) => rejectStart attempt error
    | .error e => .throw e

/-- `request_compute_start` for an attempt that was there before. -/
def joinStart (attempt : DatabricksComputeAttempt) : Starter StartResult :=
  if attempt.status ≠ .starting then
    refuse .computeNotReady
      "Databricks compute has an unresolved prior startup attempt. Check its status before retrying."
  else return {
    outcome := "already_starting", state := attempt.lastState, kind := attempt.computeKind }

/-- The columns of the run that `request_compute_start` sets. -/
def linkRun (a : StartArgs) (attempt : DatabricksComputeAttempt) : Starter Unit :=
  if a.forRun then demand (.linkRun attempt) else return ()

/-- `request_compute_start` from the reservation on. -/
def reserveAndStart (upper : String → String) (a : StartArgs) : Starter StartResult := do
  let (attempt, created) ← createComputeAttempt a.userId a.credentials
  let _ ← linkRun a attempt
  if created then startReserved upper a attempt else joinStart attempt

/-- `request_compute_start`. -/
def requestComputeStart (upper : String → String) (a : StartArgs) : Starter StartResult := do
  if ¬ a.userActive then
    refuse .permissionDenied "The Databricks connection owner is no longer active."
  else if a.requireOptIn ∧ (¬ a.startupContractVerified ∨ a.startupPolicy ≠ "allow_start") then
    refuse .permissionDenied "Automatic Databricks startup is not authorized for this connection."
  else if a.forRun then do
    let fresh ← demand .enterRun
    if fresh then reserveAndStart upper a
    else return {
      outcome := "already_starting"
      state := if a.observedState = "" then "UNKNOWN" else a.observedState
      kind := a.credentials.computeKind }
  else reserveAndStart upper a

/-! ## The start button -/

/-- The clause for a `ConnectorError` of the provider behind the button. -/
def rejectButtonStart (attempt : DatabricksComputeAttempt) (error : ConnectorError) :
    Starter StartResult := do
  if error.code ∈ uncertainStarts then do
    let _ ← demand (.recordStartUncertain attempt.id error)
    return { outcome := "start_uncertain", state := attempt.lastState, kind := attempt.computeKind }
  else do
    recordStartFailure attempt.id error
    .throw (.connector error)

/-- `_start_databricks_compute_in_thread` for the attempt that it has created. -/
def startButtonReserved (userId : String) (attempt : DatabricksComputeAttempt) :
    Starter StartResult := do
  let revision ← demand (.revision userId)
  if revision.getD "" ≠ attempt.connectionGeneration then do
    let error : ConnectorError := { code := .credentialsStale, retryable := false, summary :=
      "The Databricks connection changed before compute could be started. Save the connection and try again." }
    recordStartFailure attempt.id error
    .throw (.connector error)
  else do
    let callable ← demand .resolveConnector
    if ¬ callable then
      refuse .internalError "The Databricks connector does not support compute startup."
    else match ← (demand (.startCompute attempt.id)).attempt with
      | .ok result => do
        let _ ← demand (.recordStartSubmission attempt.id result)
        return result
      | .error (.connector error) => rejectButtonStart attempt error
      | .error e => .throw e

/-- `_start_databricks_compute_in_thread`. -/
def startDatabricksComputeInThread (userId : String) (c : ComputeCredentials) :
    Starter StartResult := do
  let (attempt, created) ← createComputeAttempt userId c
  if created then startButtonReserved userId attempt
  else return {
    outcome := "already_starting", state := attempt.lastState, kind := attempt.computeKind }

/-! ## Calls -/

/-- The calls that change attempts. -/
inductive ComputeCall where
  | requestComputeStart (a : StartArgs)
  | startDatabricksComputeInThread (userId : String) (c : ComputeCredentials)
  | cancelComputeObservation (userId attemptId : String)
  | resumeComputeObservation (userId attemptId : String)
  | claimDueAttempt (leaseSeconds : Int)
  | observeAttempt (attemptId leaseToken state : String) (error : Option ConnectorError)
  | recordStartSubmission (attemptId : String) (result : StartResult)
  | recordStartUncertain (attemptId : String) (error : ConnectorError)
  | recordStartFailure (attemptId : String) (error : ConnectorError)
  | replaceCredentials (userId : String) (revision : Option String)

/-- Drop the result of a program. -/
def silently {α : Type} (p : Starter α) : Starter Unit := do
  let _ ← p
  return ()

/-- The program of a call. -/
def ComputeCall.program (upper : String → String) : ComputeCall → Starter Unit
  | requestComputeStart a => silently (DataMover.requestComputeStart upper a)
  | startDatabricksComputeInThread userId c =>
    silently (DataMover.startDatabricksComputeInThread userId c)
  | cancelComputeObservation userId id => silently (demand (.cancelComputeObservation userId id))
  | resumeComputeObservation userId id => silently (demand (.resumeComputeObservation userId id))
  | claimDueAttempt leaseSeconds => silently (demand (.claimDueAttempt leaseSeconds))
  | observeAttempt id token state error => silently (demand (.observeAttempt id token state error))
  | recordStartSubmission id result => demand (.recordStartSubmission id result)
  | recordStartUncertain id error => demand (.recordStartUncertain id error)
  | recordStartFailure id error => DataMover.recordStartFailure id error
  | replaceCredentials userId revision => demand (.replaceCredentials userId revision)

end DataMover
