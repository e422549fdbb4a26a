import DataMover.Engine.Transfer

/-!
# The worker

`process_one` from the moment `claim_run` has returned a run: it runs the transfer and records how it
failed.  The connectors' own database work (publication events, compute starts) and the lease keeper
are not part of this program; they act beside it.
-/

namespace DataMover

open Program (lift attempt)

/-- The process that a worker runs in: its settings, its connectors and its parsers. -/
structure WorkerEnv where
  lib : Library
  settings : Settings
  parseSnapshot : String → Except Exn DefinitionSnapshot
  routeAllowed : String → String → Bool
  writerEnabled : String → Bool
  sourceReaderFor : String → Except Exn Adapter
  destinationWriterFor : String → Except Exn Adapter

/-- The arguments that `process_one` calls `execute_transfer` with. -/
def WorkerEnv.job (env : WorkerEnv) (run : PipelineRun) (snapshot : DefinitionSnapshot) : Job where
  lib := env.lib
  settings := env.settings
  run := run
  snapshot := snapshot
  routeAllowed := env.routeAllowed snapshot.sourceProvider snapshot.destinationProvider
  writerEnabled := env.writerEnabled snapshot.destinationProvider
  source := env.sourceReaderFor snapshot.sourceProvider
  destination := env.destinationWriterFor snapshot.destinationProvider

/-- A Databricks destination needs a table to publish to. -/
def checkPublicationTarget (snapshot : DefinitionSnapshot) : Except Exn Unit :=
  if snapshot.destinationProvider = "databricks" ∧ snapshot.destination.databricks?.isNone then
    .error (schemaDrift "The Databricks publication target is invalid.")
  else .ok ()

/-- The `try` block of `process_one`. -/
def transferRun (env : WorkerEnv) (run : PipelineRun) : Transfer Unit := do
  let snapshot ← lift (env.parseSnapshot run.definitionSnapshotJson)
  let _ ← ask (.credentials snapshot.sourceProvider)
  let _ ← ask (.credentials snapshot.destinationProvider)
  let _ ← lift (checkPublicationTarget snapshot)
  executeTransfer (env.job run snapshot)

/-- `fail_run`. -/
def failRun (a : PipelineRun.FailArgs) : Transfer Unit := do
  let _ ← ask (.service (.failRun a))
  return ()

/-- `except RunConflictError` around a record of a failure: the lease was lost before. -/
def ignoringConflict (body : Transfer Unit) : Transfer Unit := do
  match ← attempt body with
  | .ok _ => return ()
  | .error (.runConflict _) => return ()
  | .error e => .throw e

/-- The arguments of `fail_run` for a `ConnectorError`. -/
def connectorFailure (e : ConnectorError) : PipelineRun.FailArgs where
  code := .known e.code
  summary := e.summary
  retryable := e.retryable
  dataImpact := e.dataImpact

/-- How a `ConnectorError` is recorded on the run. -/
def recordConnectorError (env : WorkerEnv) (failed : PipelineRun) (e : ConnectorError) :
    Transfer Unit := do
  if e.code = .computeNotReady ∧ e.retryable then do
    let released ← ask (.deferRunForDatabricksCompute env.settings.databricksStartupPollSeconds)
    if released then return () else failRun (connectorFailure e)
  else if e.code = .computeNotReady ∧ failed.stage = .authenticate ∧ failed.loadedRows = 0 then do
    let _ ← ask (.service (.blockComputeReadiness e.summary))
    return ()
  else failRun (connectorFailure e)

/-- The `except` clauses of `process_one`. -/
def onTransferFailure (env : WorkerEnv) : Exn → Transfer Unit
  | .connector e => do
    let _ ← ask .rollback
    match ← ask .getRun with
    | none => return ()
    | some failed => ignoringConflict (recordConnectorError env failed e)
  | .runConflict _ => do
    let _ ← ask .rollback
    return ()
  | _ => do
    let _ ← ask .rollback
    match ← ask .getRun with
    | none => return ()
    | some _ => ignoringConflict (failRun {
        code := .known .internalError, summary := "The transfer failed unexpectedly." })

/-- `process_one` on a claimed run. -/
def processOne (env : WorkerEnv) (run : PipelineRun) : Transfer Unit := do
  match ← ask .getUser with
  | none => failRun {
      code := .known .internalError, summary := "The run owner no longer exists." }
  | some false => cancelClaimedRun none
  | some true =>
    match ← attempt (transferRun env run) with
    | .ok _ => return ()
    | .error e => onTransferFailure env e

/-! ## A sample route -/

/-- From one PostgreSQL table to another, without the social security numbers. -/
def DefinitionSnapshot.sample : DefinitionSnapshot where
  sourceProvider := "postgres"
  destinationProvider := "postgres"
  source := .postgresTable "public" "people"
  destination := .postgresTable "public" "copies"
  writePolicy := { mode := .postgresAppend [] "" }
  guardrailActions := [{ detector := .ssn, column := "ssn", action := .remove }]

def Settings.sample : Settings where
  pipelineLeaseSeconds := 60
  pipelineMaxRunSeconds := 3600
  pipelineMaxSourceBytes := 1000
  pipelineMaxSpoolBytes := 1000
  pipelineBatchRows := 10
  pipelineBatchTargetBytes := 1000
  databricksStartupPollSeconds := 10
  apiTokenKey := none

def WorkerEnv.sample : WorkerEnv where
  lib := .sample
  settings := .sample
  parseSnapshot _ := .ok .sample
  routeAllowed _ _ := true
  writerEnabled _ := true
  sourceReaderFor _ := .ok { sourceReader := true, capabilities := some { source := true } }
  destinationWriterFor _ := .ok {
    destinationWriter := true, capabilities := some { destination := true } }

/-- A claimed run of the sample route. -/
def PipelineRun.sample : PipelineRun where
  id := "run"
  pipelineDefinitionId := some "pipeline"
  userId := "user"
  definitionSnapshotJson := ""
  status := .validating
  stage := .authenticate
  workerId := some "worker"
  leaseToken := some ⟨"token", token_ne_empty⟩
  leaseExpiresAt := some (seconds 60)
  queuedAt := 0
  createdAt := 0
  updatedAt := 0

/-- What is answered in an undisturbed run of the sample route. -/
def sampleAnswer : (c : Call) → Except Exn c.Answer
  | .getUser => .ok (some true)
  | .clock => .ok 0
  | .leaseLost | .cancelRequested => .ok false
  | .inspectSource | .inspectDestination => .ok {
      locator := .postgresTable "public" "people"
      columns := [{ name := "id", dataType := "bigint" }, { name := "ssn", dataType := "text" }] }
  | .extract _ _ => .ok { batches := [⟨.sample, 2, 16, 0⟩] }
  | .countDestinationRows => .ok (some 0)
  | .prepareDestination _ _ _ => .ok {}
  | .writeBatch _ batch => .ok ⟨batch.rowCount, batch.byteCount⟩
  | .finalize _ => .ok { rows := 2, bytes := 16 }
  | .abort _ => .ok .rolledBack
  | .credentials _ | .rollback | .appendEvent _ _ | .refreshPublishedDestinationCache | .testSource
  | .closeSource | .testDestination => .ok ()
  | .service _ => .ok .sample
  | .deferRunForDatabricksCompute _ => .ok false
  | .getRun => .ok (some .sample)

/-- The same, of a source that yields two batches, with the columns in different orders. -/
def permutedAnswer : (c : Call) → Except Exn c.Answer
  | .extract _ _ => .ok { batches := [⟨.sample, 2, 16, 1⟩, ⟨.permuted, 1, 8, 2⟩] }
  | .finalize _ => .ok { rows := 3, bytes := 24 }
  | c => sampleAnswer c

end DataMover
