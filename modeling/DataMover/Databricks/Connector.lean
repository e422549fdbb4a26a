import DataMover.Engine.Connectors
import DataMover.Engine.Labels
import DataMover.Handlers
import DataMover.Publication.Recovery
import DataMover.Publication.TableIdentity

/-!
# The Databricks connector

`connectors/databricks.py` as programs: what `prepare_destination`, `write_batch`, `finalize` and
`abort` ask of the publication ledger, of the workspace and of the SQL sessions they open, in the
order in which they ask it; and the two functions that a recovery pass calls,
`reconcile_publication` and `cleanup_staging`.  Every request may raise.
-/

namespace DataMover

namespace Databricks

open Program (attempt)

/-! ## Requests -/

/-- What a call below the connector raises: an exception of a provider, or a `ConnectorError` with
its `http_status`. -/
inductive Raised where
  | provider (exc : ProviderException)
  | connector (e : ConnectorError) (httpStatus : Option Nat := none)

/-- What `_provider_error` reads of an exception. -/
def Raised.seen : Raised → ProviderException
  | provider exc => exc
  | connector _ httpStatus => { status := httpStatus, name := "connectorerror" }

/-- The exception as the engine sees it. -/
def Raised.exn : Raised → Exn
  | provider exc => .other exc.name
  | connector e _ => .connector e

/-- `_provider_error` as an exception. -/
def Raised.wrapped (raised : Raised) (operation : String) (destination : Bool := false) : Raised :=
  connector (providerError raised.seen operation destination) raised.seen.status

/-- `exc if isinstance(exc, ConnectorError) else _provider_error(exc, ...)`. -/
def Raised.safeError (raised : Raised) (operation : String) : ConnectorError :=
  match raised with
  | provider exc => providerError exc operation true
  | connector e _ => e

/-- A value bound to a placeholder, with its column. -/
inductive Parameter where
  | plain (value : Cell)
  | timestampNtz (value : Cell)
  deriving DecidableEq

/-- A row of a table: its columns with their values. -/
abbrev Row := List (String × Parameter)

/-- The statement of `finalize` for a write policy. -/
inductive PublishMode where
  | createAs
  | insertInto
  | replaceAs
  deriving DecidableEq

/-- The statements that change something; tables are named by their qualified text. -/
inductive Statement where
  | createStaging (table : String) (declarations : List (String × String))
  | insertValues (table : String) (columns : List String) (rows : List Row)
  | setUserMetadata (operationId : String)
  | publish (comment : String) (mode : PublishMode) (target : String) (columns : List String)
      (source : String)
  | dropIfExists (table : String)
  deriving DecidableEq

/-- `query_tags`. -/
abbrev QueryTags := List (String × String)

/-- A query of the warehouse's history. -/
structure Query where
  /-- `_sdk_value(query.status, "UNKNOWN").upper()`. -/
  status : String
  tags : QueryTags
  text : String
  deriving DecidableEq

/-- A page of the query history. -/
structure QueryPage where
  res : List Query
  nextPage : Option String

/-- `_TagSummary`. -/
structure TagSummary where
  parentMarkers : List String
  columnMarkers : List (String × List String)

/-- What a recovery pass reads of its record, and of the credentials of its owner. -/
structure RecoveryGrant extends RecoveryOperation where
  targetLocatorJson : String
  submittedAtMs : Int
  workspaceId : String
  connectionGeneration : String
  onWarehouse : Bool

/-- What a recovery pass reads of a record that it owns: the operation, or why it may not use the
credentials of the owner, and then whether the commit of the record was confirmed. -/
inductive RecoveryRead where
  | granted (grant : RecoveryGrant)
  | ownerUnavailable
  | credentialsUnavailable (confirmed : Bool)
  | credentialsStale (confirmed : Bool)

/-- What the connector and a recovery pass ask of others. -/
inductive DatabricksCall where
  /-- A call of the worker that its destination connector does not carry out with a write. -/
  | worker (call : Call)
  /-- The recorder that the worker has put into the credentials. -/
  | record (w : PublicationWriter) (runId : String) (event : PublicationEvent)
  | tableRows (target : DatabricksTable)
  | schemaRows (target : DatabricksTable)
  | readTags (target : DatabricksTable)
  | inspectObject (target : DatabricksTable)
  /-- `warehouses.get(...).enable_serverless_compute`, when it is a `bool`. -/
  | enableServerlessCompute
  | openSession (tags : Option QueryTags)
  | execute (statement : Statement)
  | closeSession
  /-- `int(time.time() * 1000)`. -/
  | nowMs
  | queryHistory (startMs endMs : Int) (pageToken : Option String)
  /-- `DESCRIBE HISTORY ... LIMIT 1000`: the names of its columns, and its rows. -/
  | describeHistory (target : String)
  /-- The transactions of a recovery pass. -/
  | claimRecovery
  | readOperation (runId token : String)
  | deferRecovery (runId token code summary : String) (delaySeconds : Int)
      (state : Option PublicationState)
  | confirmCommit (runId token submissionId : String)
  | finishRecovery (runId token : String)

/-- What a call returns. -/
@[reducible] def DatabricksCall.Answer : DatabricksCall → Type
  | worker call => call.Answer
  | tableRows _ => List (String × String)
  | schemaRows _ => Nat
  | readTags _ => TagSummary
  | inspectObject _ => ObjectSchema
  | enableServerlessCompute => Option Bool
  | nowMs => Int
  | queryHistory _ _ _ => QueryPage
  | describeHistory _ => List String × List (List (Option String))
  | claimRecovery => Option (String × String)
  | readOperation _ _ => Option RecoveryRead
  | confirmCommit _ _ _ => Bool
  | record _ _ _ | openSession _ | execute _ | closeSession | deferRecovery _ _ _ _ _ _
  | finishRecovery _ _ => Unit

/-- A program of the connector. -/
abbrev Publisher := Program DatabricksCall.Answer Raised

/-- Make a call, and raise what it raises. -/
abbrev call (c : DatabricksCall) : Publisher c.Answer := Program.call c

/-- Return a value, or raise an exception of the engine. -/
def check {α : Type} : Except Exn α → Publisher α
  | .ok a => pure a
  | .error (.connector e) => .throw (.connector e)
  | .error (.other name) => .throw (.provider { name })
  | .error _ => .throw (.provider { name := "exception" })

/-- Raise a `ConnectorError` that is not retryable. -/
def refuse {α : Type} (code : TransferErrorCode) (summary : String) : Publisher α :=
  check (.error (fatal code summary))

/-- `_sql_cursor`: the body runs in a session of its own, and what it raises is a
`ConnectorError`. -/
def sqlCursor {α : Type} (tags : Option QueryTags) (body : Publisher α) : Publisher α := do
  match ← attempt (call (.openSession tags)) with
  | .error (.connector e status) => .throw (.connector e status)
  | .error exc => .throw (exc.wrapped "SQL connection")
  | .ok _ => do
    let outcome ← attempt body
    let _ ← attempt (call .closeSession)
    match outcome with
    | .ok a => return a
    | .error (.connector e status) => .throw (.connector e status)
    | .error exc => .throw (exc.wrapped "SQL operation")

/-! ## Names and types -/

def backtick : Char := Char.ofNat 96

/-- The quoted text of an identifier. -/
def quoted (identifier : String) : String :=
  String.ofList ([backtick] ++
    identifier.toList.flatMap (fun c => if c = backtick then [c, c] else [c]) ++ [backtick])

/-- `_quote`. -/
def quote (identifier : String) : Except Exn String :=
  if identifier = "" ∨ identifier.toList.any fun c => c.toNat < 32 || c.toNat = 127 then
    .error (fatal .unsupportedType "A Databricks object identifier is invalid.")
  else .ok (quoted identifier)

/-- `_qualified`. -/
def qualified (locator : DatabricksTable) : Except Exn String := do
  let catalog ← quote locator.catalog
  let schemaName ← quote locator.schemaName
  let table ← quote locator.table
  return catalog ++ "." ++ schemaName ++ "." ++ table

/-- `re.fullmatch(r"Decimal\(precision=(\d+), scale=(\d+)\)", data_type)`. -/
def decimalArguments (dataType : String) : Option (Nat × Nat) := do
  let rest ← "Decimal(precision=".toList.isPrefixOf? dataType.toList
  let (precision, rest) ← takeDigits rest
  let rest ← ", scale=".toList.isPrefixOf? rest
  let (scale, rest) ← takeDigits rest
  if rest = [')'] then some (numeral precision, numeral scale) else none

/-- `types` of `_sql_type`. -/
def deltaTypes : List (String × String) := [
  ("string", "STRING"), ("utf8", "STRING"), ("boolean", "BOOLEAN"), ("int8", "TINYINT"),
  ("int16", "SMALLINT"), ("int32", "INT"), ("int64", "BIGINT"), ("float32", "FLOAT"),
  ("float64", "DOUBLE"), ("date", "DATE"),
  ("datetime(time_unit='us')", "TIMESTAMP_NTZ"),
  ("datetime(time_unit='us', time_zone=none)", "TIMESTAMP_NTZ"),
  ("datetime(time_unit='us', time_zone='utc')", "TIMESTAMP"),
  ("binary", "BINARY"), ("text", "STRING"), ("character varying", "STRING"),
  ("character", "STRING"), ("smallint", "SMALLINT"), ("integer", "INT"), ("bigint", "BIGINT"),
  ("real", "FLOAT"), ("double precision", "DOUBLE"), ("timestamp", "TIMESTAMP"),
  ("timestamp_ltz", "TIMESTAMP"), ("timestamp_ntz", "TIMESTAMP_NTZ"),
  ("timestamp without time zone", "TIMESTAMP_NTZ"), ("timestamp with time zone", "TIMESTAMP"),
  ("bytea", "BINARY")]

/-- `_unsupported_type`. -/
def unsupportedType : Exn :=
  fatal .unsupportedType "The selected table contains a nested, complex, or unsupported scalar type."

/-- `_sql_type`. -/
def sqlType (casefold : String → String) (dataType : String) : Except Exn String :=
  if startsWith "Decimal(" dataType then
    match decimalArguments dataType with
    | some (precision, scale) =>
      if 1 ≤ precision ∧ precision ≤ 38 ∧ scale ≤ precision then
        .ok ("DECIMAL(" ++ toString precision ++ "," ++ toString scale ++ ")")
      else .error unsupportedType
    | none => .error unsupportedType
  else match deltaTypes.lookup (joinWords (casefold dataType)) with
    | some type => .ok type
    | none => .error unsupportedType

/-! ## The state of a load -/

/-- What the connector reads of its settings, of the credentials that the worker has prepared, and
of the run that the recorder belongs to. -/
structure Context where
  writerEnabled : Bool
  /-- `pipeline_databricks_staging_schema`. -/
  stagingSchema : String
  /-- `databricks_workspace_id(credentials["workspace_url"])`. -/
  workspaceId : String
  connectionGeneration : String
  /-- `credentials["compute_kind"] == "warehouse"`. -/
  onWarehouse : Bool
  casefold : String → String
  /-- `_target_key`, which is also `_publication_target_marker`. -/
  targetKey : DatabricksTable → String
  /-- `snapshot.destination`, with its JSON text. -/
  destination : Locator
  destinationJson : String
  /-- `snapshot.write_policy.kind`. -/
  writeMode : String
  runId : String
  userId : String
  leaseToken : String

/-- `_LoadState`, but for the credentials. -/
structure StagedLoad extends LoadState where
  locator : DatabricksTable
  stagingName : String
  timestampNtzColumns : List String
  targetExisted : Bool
  targetObjectId : String
  targetSchemaFingerprint : String

/-- `self._loads`. -/
abbrev StagedLoads := String → Option StagedLoad

/-- `_databricks_locator`. -/
def databricksLocator (locator : Locator) : Except Exn DatabricksTable :=
  match locator.databricks? with
  | some table => .ok table
  | none => .error (fatal .internalError "Select a supported Unity Catalog Delta table.")

/-- `_require_workspace_identity`. -/
def requireWorkspaceIdentity (workspaceId connectionGeneration : String)
    (locator : DatabricksTable) : Except Exn Unit :=
  if locator.workspaceId ≠ workspaceId then
    .error (schemaDrift
      "This Databricks table belongs to a different workspace; review the selection again.")
  else if locator.connectionGeneration = "" ∨ connectionGeneration = "" ∨
      locator.connectionGeneration ≠ connectionGeneration then
    .error (fatal .credentialsStale
      "The Databricks connection changed after this table was reviewed. Select and review it again.")
  else .ok ()

/-- `re.fullmatch(r"[0-9a-fA-F-]{20,40}", run_id)`. -/
def isRunIdentity (runId : String) : Bool :=
  decide (20 ≤ runId.length ∧ runId.length ≤ 40) &&
    runId.toList.all fun c => c.isDigit || ('a' ≤ c && c ≤ 'f') || ('A' ≤ c && c ≤ 'F') || c = '-'

/-- `re.fullmatch(r"[A-Za-z_][A-Za-z0-9_]{0,127}", part)`. -/
def isPlainName (part : List Char) : Bool :=
  match part with
  | [] => false
  | c :: rest => (c.isAlpha || c = '_') && decide (rest.length ≤ 127) &&
    rest.all fun c => c.isAlphanum || c = '_'

/-- `_staging_schema`. -/
def stagingSchemaOf (setting : String) : Except Exn (String × String) :=
  match setting.toList.splitOn '.' with
  | [catalog, schemaName] =>
    if isPlainName catalog && isPlainName schemaName then
      .ok (String.ofList catalog, String.ofList schemaName)
    else .error unapproved
  | _ => .error unapproved
where
  unapproved : Exn := fatal .permissionDenied
    "The operator has not configured an approved private Databricks staging schema."

/-- The name of the staging table of a run. -/
def stagingTable (runId : String) : String :=
  "data_mover_" ++ clip 32 (String.ofList (runId.toList.filter (· ≠ '-')))

/-- The qualified text of the staging table of a run. -/
def stagingName (schema : String × String) (runId : String) : String :=
  quoted schema.1 ++ "." ++ quoted schema.2 ++ "." ++ quoted (stagingTable runId)

/-- `_load_state`. -/
def loadStateOf (loads : StagedLoads) (session : LoadSession) : Publisher StagedLoad :=
  match loads (runIdOf session) with
  | some st => return st
  | none => check (.error sessionLost)

/-! ## The ledger -/

/-- The arguments that the recorder passes on; `staging` is the staging table of
`prepare_started`. -/
def Context.writer (x : Context) (target : DatabricksTable) (staging : String) :
    PublicationWriter where
  leaseToken := x.leaseToken
  userId := x.userId
  workspaceId := target.workspaceId
  targetKey := x.targetKey target
  locatorJson := x.destinationJson
  connectionGeneration := target.connectionGeneration
  writeMode := x.writeMode
  stagingName := staging

/-- `_record_publication_event` with the recorder of the worker; `staging_name` is empty but for the
first event. -/
def recordEvent (x : Context) (target : DatabricksTable) (runId : String) (event : PublicationEvent)
    (staging : String := "") : Publisher Unit := do
  if runId ≠ x.runId ∨ x.destination ≠ .databricksTable target then
    check (.error (schemaDrift
      "The Databricks publication target changed during this transfer."))
  else match ← attempt (call (.record (x.writer target staging) x.runId event)) with
    | .ok _ => return ()
    | .error (.connector e status) => .throw (.connector e status)
    | .error _ =>
      refuse .workerLost
        "Databricks publication state could not be saved. The operation will not continue until recovery is safe."

/-- An event whose recording may fail. -/
def recordQuietly (x : Context) (target : DatabricksTable) (runId : String)
    (event : PublicationEvent) : Publisher Bool := do
  let outcome ← attempt (recordEvent x target runId event)
  return outcome.isOk

/-! ## The target -/

/-- `_incomplete_metadata`. -/
def incompleteMetadata : Exn := fatal .metadataIncomplete
  "Databricks metadata coverage could not be verified; review permissions and supported runtime before continuing."

/-- `_sensitive_destination`. -/
def sensitiveDestination : Exn := fatal .sensitiveDataGuardrailBlocked
  "Databricks destination sensitivity metadata blocks this write. Review the target policy and choose another destination."

/-- `_table_rows`. -/
def tableRows (target : DatabricksTable) : Publisher (List (String × String)) := do
  let rows ← sqlCursor none (call (.tableRows target))
  if rows.length > 1 then check (.error incompleteMetadata) else return rows

/-- The part of `_validate_target` with a session. -/
def destinationTags (target : DatabricksTable) : Publisher TagSummary :=
  sqlCursor none do
    let rows ← call (.schemaRows target)
    if rows ≠ 1 then
      refuse .destinationNotFound
        "The Databricks destination schema is not visible to this connection."
    else call (.readTags target)

/-- The columns of a schema as Delta sees them. -/
def deltaColumns (casefold : String → String) (columns : List ColumnSchema) :
    Except Exn (List (String × String)) :=
  columns.mapM fun column => (fun type => (column.name, type)) <$> sqlType casefold column.dataType

/-- The checks of `_validate_target` on the table that it has inspected. -/
def checkCurrent (casefold : String → String) (target : DatabricksTable) (output : List ColumnSchema)
    (policy : WriteMode) (objectId fingerprint : String) (current : ObjectSchema) : Except Exn Unit :=
  match current.locator.databricks? with
  | none => .error (schemaDrift "The Databricks destination identity could not be verified.")
  | some found =>
    if objectId ≠ "" ∧ found.objectId ≠ objectId then
      .error (schemaDrift "The Databricks destination table identity changed after review.")
    else if fingerprint ≠ "" ∧ current.schemaFingerprint ≠ fingerprint then
      .error (schemaDrift
        "The Databricks destination schema or sensitivity policy changed after review.")
    else if target.sensitivityFingerprint ≠ "" ∧
        current.sensitivityFingerprint ≠ target.sensitivityFingerprint then
      .error (schemaDrift "The Databricks destination sensitivity policy changed after review.")
    else if policy = .databricksAppend ∧ output ≠ [] then do
      let currentColumns ← deltaColumns casefold current.columns
      let outputColumns ← deltaColumns casefold output
      if currentColumns ≠ outputColumns then
        .error (schemaDrift
          "Append requires the transformed columns and types to match the current Databricks target.")
      else .ok ()
    else .ok ()

/-- `_validate_target`: whether the target exists, and its schema. -/
def validateTarget (x : Context) (target : DatabricksTable) (output : List ColumnSchema)
    (policy : WriteMode) (expectedObjectId expectedFingerprint : String) :
    Publisher (Bool × Option ObjectSchema) := do
  check (requireWorkspaceIdentity x.workspaceId x.connectionGeneration target)
  let creating := policy = .databricksCreate
  let objectId := if expectedObjectId = "" then target.objectId else expectedObjectId
  let fingerprint :=
    if expectedFingerprint = "" then target.schemaFingerprint else expectedFingerprint
  let rows ← tableRows target
  if creating ∧ rows ≠ [] then
    refuse .destinationConflict
      "A Databricks table with that name already exists. Choose another table name."
  else if ¬ creating ∧ rows = [] then
    refuse .destinationNotFound
      "The selected Databricks destination table is no longer available."
  else do
    let tags ← destinationTags target
    if tags.parentMarkers ≠ [] ∨ tags.columnMarkers ≠ [] then check (.error sensitiveDestination)
    else if creating then return (false, none)
    else do
      let current ← call (.inspectObject target)
      check (checkCurrent x.casefold target output policy objectId fingerprint current)
      return (true, some current)

/-! ## The four functions of the writer -/

/-- `prepare_destination`. -/
def prepareDestination (x : Context) (loads : StagedLoads) (schema : ObjectSchema)
    (policy : WritePolicy) (runId : String) : Publisher (LoadSession × StagedLoads) := do
  if !x.writerEnabled then
    refuse .permissionDenied
      "The Databricks destination writer is not enabled by the operator."
  else do
    let target ← check (databricksLocator x.destination)
    check (requireWorkspaceIdentity x.workspaceId x.connectionGeneration target)
    if !isRunIdentity runId then
      refuse .internalError "The transfer run identity is invalid."
    else do
      let staging ← check (stagingSchemaOf x.stagingSchema)
      recordEvent x target runId .prepareStarted
        (staging.1 ++ "." ++ staging.2 ++ "." ++ stagingTable runId)
      if schema.columns = [] then
        refuse .unsupportedType "The transformed output schema has no supported columns."
      else do
        let (existed, current) ← validateTarget x target schema.columns policy.mode "" ""
        let declarations ← check (schema.columns.mapM fun column => do
          let _ ← quote column.name
          let type ← sqlType x.casefold column.dataType
          return (column.name, type))
        match ← attempt (sqlCursor none
            (call (.execute (.createStaging (stagingName staging runId) declarations)))) with
        | .error exc => do
          let _ ← recordQuietly x target runId
            (.abortUncertain (some (exc.safeError "private staging creation")))
          .throw (exc.wrapped "private staging creation" true)
        | .ok _ => do
          recordEvent x target runId .stagingReady
          let st : StagedLoad := {
            policy := policy.mode
            columns := schema.names
            locator := target
            stagingName := stagingName staging runId
            timestampNtzColumns :=
              (declarations.filter fun d => d.2 = "TIMESTAMP_NTZ").map Prod.fst
            targetExisted := existed
            targetObjectId := ((current.bind fun c => c.locator.databricks?).map
              DatabricksTable.objectId).getD ""
            targetSchemaFingerprint := (current.map ObjectSchema.schemaFingerprint).getD "" }
          return (openedSession schema runId, Function.update loads runId (some st))

/-- `isinstance(value, datetime)`. -/
def isDatetime : Cell → Bool
  | .other typeName _ => decide (typeName = "datetime")
  | _ => false

/-- A value with its parameter type. -/
def parameter (timestampNtzColumns : List String) (column : String) (value : Cell) : Parameter :=
  if column ∈ timestampNtzColumns ∧ isDatetime value then .timestampNtz value else .plain value

/-- The rows that `write_batch` inserts for a frame. -/
def insertedRows (columns timestampNtzColumns : List String) (frame : Frame) : List Row :=
  frame.rows.map fun row => columns.map fun column =>
    (column, parameter timestampNtzColumns column (row column))

/-- `rows[offset : offset + size] for offset in range(0, len(rows), size)`. -/
def slices {α : Type} (size : Nat) (rows : List α) : List (List α) :=
  (List.range ((rows.length + size - 1) / size)).map fun k => (rows.drop (size * k)).take size

/-- `_BATCH_INSERT_ROWS`. -/
def batchInsertRows : Nat := 500

/-- One `executemany` after another. -/
def insertAll (table : String) (columns : List String) : List (List Row) → Publisher Unit
  | [] => return ()
  | rows :: rest => do
    call (.execute (.insertValues table columns rows))
    insertAll table columns rest

/-- `write_batch`. -/
def writeRows (x : Context) (loads : StagedLoads) (session : LoadSession) (batch : TransferBatch) :
    Publisher (Except Raised BatchWriteResult × StagedLoads) := do
  match ← attempt do
      let st ← loadStateOf loads session
      if namesDrifted st.columns batch.frame then check (.error columnsDrift)
      else do
        let _ ← check (st.columns.mapM quote)
        let _ ← check (batch.frame.select st.columns)
        match ← attempt (sqlCursor none (insertAll st.stagingName st.columns
            (slices batchInsertRows
              (insertedRows st.columns st.timestampNtzColumns batch.frame)))) with
        | .error exc => .throw (exc.wrapped "staging batch write" true)
        | .ok _ => return st
    with
  | .error exc => return (.error exc, loads)
  | .ok st => do
    let st := { st with rows := st.rows + batch.rowCount, bytes := st.bytes + batch.byteCount }
    let loads := Function.update loads (runIdOf session) (some st)
    match ← attempt (recordEvent x st.locator (runIdOf session) (.batchWritten st.rows st.bytes)) with
    | .error exc => return (.error exc, loads)
    | .ok _ => return (.ok ⟨batch.rowCount, batch.byteCount⟩, loads)

/-- `_is_serverless_warehouse`. -/
def isServerlessWarehouse (onWarehouse : Bool) : Publisher Bool := do
  if !onWarehouse then return false
  else match ← attempt (call .enableServerlessCompute) with
    | .error (.connector e status) => .throw (.connector e status)
    | .error exc => .throw (exc.wrapped "warehouse compute-mode check")
    | .ok (some serverless) => return serverless
    | .ok none =>
      refuse .unsupportedType
        "The selected Databricks warehouse does not report whether it uses serverless compute."

/-- The statement of a write policy. -/
def publishMode : WriteMode → Option PublishMode
  | .databricksCreate => some .createAs
  | .databricksAppend => some .insertInto
  | .databricksReplace => some .replaceAs
  | _ => none

/-- The query tags of a publication. -/
def publicationTags (operationId marker : String) : QueryTags :=
  [("data_mover_run_id", operationId), ("data_mover_target", marker)]

/-- `f"datamover-run:{submission_id};target:{target_marker}"`. -/
def publicationMark (operationId marker : String) : String :=
  "datamover-run:" ++ operationId ++ ";target:" ++ marker

/-- The comment before the statement of a publication. -/
def publicationComment (operationId marker : String) : String :=
  "/* " ++ publicationMark operationId marker ++ " */ "

/-- The checks of `finalize` before it opens a session, and the statement it submits. -/
def preparePublication (x : Context) (loads : StagedLoads) (session : LoadSession) :
    Publisher (StagedLoad × Bool × Statement) := do
  let st ← loadStateOf loads session
  let _ ← validateTarget x st.locator [] st.policy st.targetObjectId st.targetSchemaFingerprint
  let target ← check (qualified st.locator)
  let _ ← check (st.columns.mapM quote)
  match publishMode st.policy with
  | none => refuse .internalError "The selected Databricks write policy is unsupported."
  | some mode => do
    let serverless ← isServerlessWarehouse x.onWarehouse
    let comment :=
      if serverless then publicationComment (runIdOf session) (x.targetKey st.locator) else ""
    return (st, serverless, .publish comment mode target st.columns st.stagingName)

/-- The mark of the run in a session without query tags. -/
def markSession (serverless : Bool) (operationId : String) : Publisher Unit :=
  if !serverless then call (.execute (.setUserMetadata operationId)) else return ()

/-- The session in which `finalize` submits its statement; what the statement raised is returned. -/
def submitPublication (x : Context) (st : StagedLoad) (operationId : String) (serverless : Bool)
    (statement : Statement) : Publisher (Except Raised Unit) :=
  sqlCursor (if serverless then some (publicationTags operationId (x.targetKey st.locator)) else none) do
    markSession serverless operationId
    recordEvent x st.locator operationId .publishSubmitted
    attempt (call (.execute statement))

def outcomeUncertain : ConnectorError where
  code := .publishUncertain
  summary := "Databricks publication was submitted but its outcome could not be confirmed. Review the destination before retrying."
  retryable := false

/-- Drop the staging table of a load. -/
def dropStaging (table : String) : Publisher Unit :=
  sqlCursor none (call (.execute (.dropIfExists table)))

/-- `finalize`. -/
def publish (x : Context) (loads : StagedLoads) (session : LoadSession) :
    Publisher (Except Raised DestinationManifest × StagedLoads) := do
  let operationId := runIdOf session
  match ← attempt (preparePublication x loads session) with
  | .error exc => return (.error exc, loads)
  | .ok (st, serverless, statement) =>
    match ← attempt (submitPublication x st operationId serverless statement) with
    | .error exc => return (.error (exc.wrapped "pre-publication validation" true), loads)
    | .ok outcome => do
      let submitted := Function.update loads operationId (some { st with publishSubmitted := true })
      match outcome with
      | .error _ => do
        let _ ← recordQuietly x st.locator operationId (.publishUncertain (some outcomeUncertain))
        return (.error (.connector outcomeUncertain), submitted)
      | .ok _ =>
        match ← attempt (recordEvent x st.locator operationId .committed) with
        | .error exc => return (.error exc, submitted)
        | .ok _ => do
          let dropped ← attempt (dropStaging st.stagingName)
          let recorded ← recordQuietly x st.locator operationId
            (if dropped.isOk then .cleanupConfirmed else .cleanupPending)
          return (.ok {
            rows := st.rows
            bytes := st.bytes
            remoteId := operationId
            details := [
              ("write_mode", removePrefix "databricks_" st.policy.kind),
              ("staging_cleanup_pending", if dropped.isOk && recorded then "false" else "true")] },
            Function.update submitted operationId none)

def alreadySubmitted : ConnectorError where
  code := .publishUncertain
  summary := "Databricks publication was already submitted; its outcome requires reconciliation."
  retryable := false

/-- `abort`. -/
def abandon (x : Context) (loads : StagedLoads) (session : LoadSession) :
    Publisher (Except Raised AbortResult × StagedLoads) := do
  let runId := runIdOf session
  match loads runId with
  | none => return (.ok .uncertain, loads)
  | some st =>
    if st.publishSubmitted then do
      let _ ← recordQuietly x st.locator runId (.publishUncertain (some alreadySubmitted))
      return (.ok .uncertain, loads)
    else match ← attempt (dropStaging st.stagingName) with
      | .error exc => do
        let _ ← recordQuietly x st.locator runId
          (.abortUncertain (some (exc.safeError "staging cleanup")))
        return (.ok .uncertain, loads)
      | .ok _ =>
        match ← attempt (recordEvent x st.locator runId .abortConfirmed) with
        | .error exc => return (.error exc, loads)
        | .ok _ => return (.ok .rolledBack, Function.update loads runId none)

/-- An outcome as the engine sees it. -/
def seen {α : Type} (r : Except Raised α × StagedLoads) : Except Exn α × StagedLoads :=
  (r.1.mapError Raised.exn, r.2)

/-- The calls of a worker, with this connector for its destination. -/
def carryOut (x : Context) : Program.Handler Call.Answer DatabricksCall.Answer Exn Raised StagedLoads
  | loads, .prepareDestination schema policy runId => do
    match ← attempt (prepareDestination x loads schema policy runId) with
    | .ok (session, loads) => return (.ok session, loads)
    | .error exc => return (.error exc.exn, loads)
  | loads, .writeBatch session batch => seen <$> writeRows x loads session batch
  | loads, .finalize session => seen <$> publish x loads session
  | loads, .abort session => seen <$> abandon x loads session
  | loads, c => do
    let outcome ← attempt (call (.worker c))
    return seen (outcome, loads)

/-- `process_one` of a run that writes to Databricks. -/
def publishOne (x : Context) (env : WorkerEnv) (run : PipelineRun) :
    Publisher (Except Exn Unit × StagedLoads) :=
  Program.interpret (carryOut x) (fun _ => none) (processOne env run)

end Databricks

end DataMover
