import DataMover.Databricks.Connector

/-!
# Recovery passes

`process_pending_publication_recovery` as a program, with the two functions of the connector that it
calls: `reconcile_publication`, which looks for the mark of the run in the history of the compute,
and `cleanup_staging`.
-/

namespace DataMover

namespace Databricks

open Program (attempt)

/-! ## The mark of a publication -/

/-- `tag_values.get(key)`: the last tag with the key. -/
def tagValue (tags : QueryTags) (key : String) : Option String := tags.reverse.lookup key

/-- The query has finished and carries the mark of the publication. -/
def Query.marks (operationId marker : String) (q : Query) : Bool :=
  decide (q.status = "FINISHED") &&
    (decide (tagValue q.tags "data_mover_run_id" = some operationId ∧
        tagValue q.tags "data_mover_target" = some marker) ||
      occursIn (publicationMark operationId marker) q.text)

/-- The `usermetadata` column of the history holds the operation. -/
def historyMarks (casefold : String → String) (operationId : String)
    (history : List String × List (List (Option String))) : Bool :=
  match (history.1.map casefold).findIdx? (· = "usermetadata") with
  | none => false
  | some i => history.2.any fun row => decide ((row[i]?.join).getD "" = operationId)

/-! ## The connector's part -/

/-- The pages of the query history that are read, one after another. -/
def searchQueries (startMs endMs : Int) (operationId marker : String) :
    Nat → Option String → Publisher Bool
  | 0, _ => return false
  | pages + 1, pageToken => do
    match ← attempt (call (.queryHistory startMs endMs pageToken)) with
    | .error _ => return false
    | .ok page =>
      if page.res.any (Query.marks operationId marker) then return true
      else match page.nextPage with
        | none => return false
        | some next => searchQueries startMs endMs operationId marker pages (some next)

/-- `reconcile_publication`: whether it answers `committed`. -/
def reconcilePublication (casefold : String → String) (targetKey : DatabricksTable → String)
    (grant : RecoveryGrant) (target : DatabricksTable) : Publisher Bool := do
  check (requireWorkspaceIdentity grant.workspaceId grant.connectionGeneration target)
  if !isRunIdentity grant.submissionId || decide (grant.submittedAtMs ≤ 0) then return false
  else do
    let nowMs ← call .nowMs
    let startMs := grant.submittedAtMs - 60000
    if startMs < nowMs - 30 * 24 * 60 * 60 * 1000 then return false
    else do
      let serverless ← isServerlessWarehouse grant.onWarehouse
      if serverless then
        searchQueries startMs nowMs grant.submissionId (targetKey target) 100 none
      else do
        let name ← check (qualified target)
        let history ← sqlCursor none (call (.describeHistory name))
        return historyMarks casefold grant.submissionId history

/-- `cleanup_staging`. -/
def cleanupStaging (stagingSchema runId : String) : Publisher Unit := do
  if !isRunIdentity runId then
    refuse .internalError "The Databricks staging run identity is invalid."
  else do
    let staging ← check (stagingSchemaOf stagingSchema)
    dropStaging (stagingName staging runId)

/-! ## The pass -/

/-- What a pass reads of its settings; `parseLocator` is
`DatabricksTableLocator.model_validate_json`. -/
structure RecoveryContext where
  stagingSchema : String
  casefold : String → String
  targetKey : DatabricksTable → String
  parseLocator : String → Except Exn DatabricksTable

/-- The error code and the summary that the `except` clauses record. -/
def recoveryError : Raised → String × String
  | .connector e _ => (e.code.value, e.summary)
  | .provider _ => ("recovery_unavailable",
      "Databricks recovery could not be confirmed; the publication record remains available for retry.")

/-- The `except` clauses, with `operation["state"]`. -/
def deferring {α : Type} (runId token : String) (state : PublicationState) (body : Publisher α) :
    Publisher (Option α) := do
  match ← attempt body with
  | .ok a => return some a
  | .error exc => do
    let (code, summary) := recoveryError exc
    call (.deferRecovery runId token code summary 300 (some
      (if state ∈ PublicationState.submittedStates then .uncertain else .cleanupPending)))
    return none

/-- The `try` block up to the cleanup: whether the pass goes on. -/
def reconcileOperation (y : RecoveryContext) (runId token : String) (grant : RecoveryGrant) :
    Publisher Bool := do
  let target ← check (y.parseLocator grant.targetLocatorJson)
  if grant.state ∉ PublicationState.submittedStates then return true
  else do
    let committed ← reconcilePublication y.casefold y.targetKey grant target
    if !committed then do
      call (.deferRecovery runId token "publish_unconfirmed"
        "No exact Databricks commit marker was found; the result remains uncertain." 300
        (some .uncertain))
      return false
    else call (.confirmCommit runId token grant.submissionId)

/-- The rest of the `try` block. -/
def cleanUp (y : RecoveryContext) (runId token : String) : Publisher Unit := do
  cleanupStaging y.stagingSchema runId
  call (.finishRecovery runId token)

/-- The state of a record whose credentials cannot be used. -/
def parked (confirmed : Bool) : PublicationState :=
  if confirmed then .cleanupPending else .cleanupRequired

/-- `process_pending_publication_recovery`. -/
def recoverOne (y : RecoveryContext) : Publisher Bool := do
  match ← call .claimRecovery with
  | none => return false
  | some (runId, token) =>
    match ← call (.readOperation runId token) with
    | none => return true
    | some .ownerUnavailable => do
      call (.deferRecovery runId token "owner_unavailable"
        "The connection owner is unavailable for Databricks recovery." 300 none)
      return true
    | some (.credentialsUnavailable confirmed) => do
      call (.deferRecovery runId token "credentials_unavailable"
        "The saved Databricks credentials are unavailable for staging recovery." 300
        (some (parked confirmed)))
      return true
    | some (.credentialsStale confirmed) => do
      call (.deferRecovery runId token "credentials_stale"
        "The Databricks connection changed; confirm the current identity before recovery." 3600
        (some (parked confirmed)))
      return true
    | some (.granted grant) => do
      match ← deferring runId token grant.state (reconcileOperation y runId token grant) with
      | some true => do
        -- after a confirmed commit the state of the operation is that of its record
        let state := if grant.state ∈ PublicationState.submittedStates then .cleanupPending
          else grant.state
        let _ ← deferring runId token state (cleanUp y runId token)
        return true
      | _ => return true

end Databricks

end DataMover
