import DataMover.Program
import DataMover.Engine.Guardrails
import DataMover.Engine.Spool
import DataMover.Runs.Lifecycle

/-!
# The transfer engine

`execute_transfer` as a program whose requests are its calls of the run service, the source and
destination connectors, the clock and the checks for a lost lease or a cancellation.  The `try` block
of the source is cut where its `except` block sees different variables: before a destination session
is open, while it is open, and after the destination has committed.
-/

namespace DataMover

open Program (lift attempt)

/-! ## Requests -/

/-- `BatchWriteResult`. -/
structure BatchWriteResult where
  rowsAcknowledged : Nat
  bytesAcknowledged : Nat

/-- `LoadSession`, without the locator and the policy it was opened for. -/
structure LoadSession where
  stagingName : String := ""
  columns : List String := []
  metadata : List (String × String) := []
  deriving DecidableEq

/-- `DestinationManifest`. -/
structure DestinationManifest where
  rows : Int
  bytes : Int
  checksum : String := ""
  remoteId : String := ""
  details : List (String × String) := []

/-- What a connector's `abort` returns; connectors may also return something else. -/
inductive AbortResult where
  | rolledBack
  | uncertain
  | other
  deriving DecidableEq

/-- The calls that a worker makes. -/
inductive Call where
  | service (call : WorkerCall)
  | deferRunForDatabricksCompute (startupPollSeconds : Int)
  | appendEvent (message : String) (stage : Stage)
  | getRun
  | getUser
  | rollback
  | credentials (provider : String)
  | refreshPublishedDestinationCache
  | clock
  | leaseLost
  | cancelRequested
  | testSource
  | inspectSource
  | extract (batchRows batchBytes : Nat)
  | closeSource
  | testDestination
  | countDestinationRows
  | inspectDestination
  | prepareDestination (schema : ObjectSchema) (policy : WritePolicy) (runId : String)
  | writeBatch (session : LoadSession) (batch : TransferBatch)
  | finalize (session : LoadSession)
  | abort (session : LoadSession)

/-- What a call returns; the service calls refresh the worker's copy of the run. -/
@[reducible] def Call.Answer : Call → Type
  | service _ => PipelineRun
  | deferRunForDatabricksCompute _ => Bool
  | getRun => Option PipelineRun
  | getUser => Option Bool
  | clock => Time
  | leaseLost | cancelRequested => Bool
  | inspectSource | inspectDestination => ObjectSchema
  | extract _ _ => Spool.Yield
  | countDestinationRows => Option Int
  | prepareDestination _ _ _ => LoadSession
  | writeBatch _ _ => BatchWriteResult
  | finalize _ => DestinationManifest
  | abort _ => AbortResult
  | appendEvent _ _ | rollback | credentials _ | refreshPublishedDestinationCache | testSource
  | closeSource | testDestination => Unit

/-- A program of the engine. -/
abbrev Transfer := Program Call.Answer Exn

/-- Make a call, and raise what it raises. -/
abbrev ask (c : Call) : Transfer c.Answer := Program.call c

/-! ## The job -/

/-- The fields of `Settings` that the engine reads. -/
structure Settings where
  pipelineLeaseSeconds : Int
  pipelineMaxRunSeconds : Int
  pipelineMaxSourceBytes : Nat
  pipelineMaxSpoolBytes : Nat
  pipelineBatchRows : Nat
  pipelineBatchTargetBytes : Nat
  databricksStartupPollSeconds : Int
  /-- `api_token_key_ring.get(api_token_active_key_id)`. -/
  apiTokenKey : Option Bytes

/-- The fields of `ProviderCapabilities` that the engine reads. -/
structure ProviderCapabilities where
  source : Bool := false
  destination : Bool := false
  schemaInspection : Bool := true
  exactRowCounts : Bool := true
  verificationLevel : String := "exact"

/-- A resolved connector: the protocols it implements, and its capabilities when they are valid. -/
structure Adapter where
  sourceReader : Bool := false
  destinationWriter : Bool := false
  rowCounter : Bool := false
  schemaInspector : Bool := false
  capabilities : Option ProviderCapabilities

/-- The arguments of `execute_transfer`; resolving a connector may raise. -/
structure Job where
  lib : Library
  settings : Settings
  run : PipelineRun
  snapshot : DefinitionSnapshot
  routeAllowed : Bool
  writerEnabled : Bool
  source : Except Exn Adapter
  destination : Except Exn Adapter

/-- A `ConnectorError` that is not retryable. -/
def fatal (code : TransferErrorCode) (summary : String) : Exn :=
  .connector { code, summary, retryable := false }

/-- `_require_role`. -/
def requireRole (candidate : Adapter) (isRole : Bool) (label : String)
    (capability : ProviderCapabilities → Bool) : Except Exn ProviderCapabilities :=
  let unsupported := fatal .internalError
    ("The selected provider does not support " ++ label ++ ".")
  if !isRole then .error unsupported
  else match candidate.capabilities with
    | none => .error unsupported
    | some capabilities => if capability capabilities then .ok capabilities else .error unsupported

/-- A destination connector that may write. -/
structure Destination where
  adapter : Adapter
  capabilities : ProviderCapabilities

/-- The checks of `execute_transfer` before any transfer state changes. -/
def resolveRoute (j : Job) : Except Exn Destination := do
  if !j.routeAllowed then
    .error (fatal .permissionDenied
      "This source and destination route is not approved for execution.")
  else do
    let source ← j.source
    let _ ← requireRole source source.sourceReader "source extraction" ProviderCapabilities.source
    let destination ← j.destination
    let capabilities ← requireRole destination destination.destinationWriter "destination writes"
      ProviderCapabilities.destination
    if !j.writerEnabled then
      .error (fatal .permissionDenied "This destination writer is not enabled.")
    else .ok ⟨destination, capabilities⟩

/-! ## Type labels -/

/-- `character.isspace()`. -/
def isSpace (c : Char) : Bool :=
  let n := c.toNat
  (9 ≤ n && n ≤ 13) || (28 ≤ n && n ≤ 32) || n = 133 || n = 160 || n = 5760 ||
    (8192 ≤ n && n ≤ 8202) || n = 8232 || n = 8233 || n = 8239 || n = 8287 || n = 12288

/-- A letter is lower-cased, everything else stays. -/
theorem toLower_cases (c : Char) :
    c.toLower = c ∨ 65 ≤ c.toNat ∧ c.toNat ≤ 90 ∧ c.toLower.toNat = c.toNat + 32 := by
  unfold Char.toLower
  split_ifs with upper
  · right
    have low : 65 ≤ c.toNat := UInt32.le_iff_toNat_le.1 upper.1
    have high : c.toNat ≤ 90 := UInt32.le_iff_toNat_le.1 upper.2
    refine ⟨low, high, ?_⟩
    change (c.val + 32).toNat = c.toNat + 32
    rw [UInt32.toNat_add]
    change (c.toNat + 32) % 4294967296 = c.toNat + 32
    omega
  · exact .inl rfl

/-- `text.strip()`. -/
def strip (s : String) : String :=
  String.ofList (((s.toList.dropWhile isSpace).reverse.dropWhile isSpace).reverse)

/-- `(\d+)` at the start of a text. -/
def takeDigits (cs : List Char) : Option (List Char × List Char) :=
  let digits := cs.takeWhile Char.isDigit
  if digits.isEmpty then none else some (digits, cs.drop digits.length)

/-- `\(precision=(\d+),\s*scale=(\d+)\)`. -/
def precisionScale (cs : List Char) : Option (List Char × List Char) := do
  let rest ← "(precision=".toList.isPrefixOf? cs
  let (precision, rest) ← takeDigits rest
  let rest ← [','].isPrefixOf? rest
  let rest ← "scale=".toList.isPrefixOf? (rest.dropWhile isSpace)
  let (scale, rest) ← takeDigits rest
  if rest = [')'] then some (precision, scale) else none

/-- `\s*\((\d+)\s*,\s*(\d+)\)`. -/
def plainPrecisionScale (cs : List Char) : Option (List Char × List Char) := do
  let rest ← ['('].isPrefixOf? (cs.dropWhile isSpace)
  let (precision, rest) ← takeDigits rest
  let rest ← [','].isPrefixOf? (rest.dropWhile isSpace)
  let (scale, rest) ← takeDigits (rest.dropWhile isSpace)
  if rest = [')'] then some (precision, scale) else none

/-- The precision and the scale of a decimal type label, as written. -/
def decimalLabel (value : String) : Option (List Char × List Char) := do
  let rest ← ("decimal".toList.isPrefixOf? value.toList).or
    ("numeric".toList.isPrefixOf? value.toList)
  (precisionScale rest).or (plainPrecisionScale rest)

/-- `aliases` of `_normalized_source_type`. -/
def typeAliases : List (String × String) := [
  ("string", "string"), ("str", "string"), ("utf8", "string"), ("text", "string"),
  ("character varying", "string"), ("varchar", "string"), ("char", "string"),
  ("varchar(100)", "string"), ("character", "string"),
  ("boolean", "boolean"), ("bool", "boolean"),
  ("smallint", "int16"), ("int16", "int16"),
  ("integer", "int32"), ("int", "int32"), ("int32", "int32"),
  ("bigint", "int64"), ("int64", "int64"),
  ("real", "float32"), ("float32", "float32"),
  ("double precision", "float64"), ("float64", "float64"),
  ("date", "date"), ("time", "time"), ("time without time zone", "time"),
  ("time with time zone", "string"),
  ("binary", "binary"), ("bytea", "binary"),
  ("timestamp", "timestamp"), ("timestamp without time zone", "timestamp"),
  ("datetime(time_unit='us')", "timestamp"),
  ("datetime(time_unit='us', time_zone=none)", "timestamp"),
  ("timestamp with time zone", "timestamptz"),
  ("datetime(time_unit='us', time_zone='utc')", "timestamptz"),
  ("interval", "string"), ("duration(time_unit='us')", "duration(time_unit='us')")]

/-- The value of a decimal numeral. -/
def numeral (digits : List Char) : Nat :=
  digits.foldl (fun n c => 10 * n + (c.toNat - '0'.toNat)) 0

/-- `_normalized_source_type`; type labels spell their numbers in ASCII digits. -/
def normalizedSourceType (lib : Library) (dataType : String) : String :=
  let value := strip (lib.casefold dataType)
  match decimalLabel value with
  | some (precision, scale) =>
    if numeral precision > 38 ∨ numeral scale > numeral precision then "string"
    else "decimal(" ++ String.ofList precision ++ "," ++ String.ofList scale ++ ")"
  | none =>
    if value = "numeric" ∨ value = "decimal" then "string"
    else if ["varchar(", "character varying(", "char(", "character("].any
        fun start => start.toList.isPrefixOf value.toList then "string"
    else (typeAliases.lookup value).getD value

/-! ## Checkpoints -/

def leaseLostError : Exn := .runConflict "This worker no longer holds the run lease."

/-- `cancel_claimed_run`. -/
def cancelClaimedRun (impact : Option DataImpact) : Transfer Unit := do
  let _ ← ask (.service (.cancelClaimedRun impact))
  return ()

/-- Raise when the lease is lost; end the run when a cancellation is requested. -/
def checkpoint (onCancel : Transfer Unit) : Transfer Bool := do
  let lost ← ask .leaseLost
  if lost then .throw leaseLostError
  else do
    let cancelled ← ask .cancelRequested
    if cancelled then do
      onCancel
      return false
    else return true

/-- `_abort_quietly`: whether the connector confirmed the rollback. -/
def abortQuietly (session : LoadSession) : Transfer Bool := do
  match ← attempt (ask (.abort session)) with
  | .ok result => return decide (result = AbortResult.rolledBack)
  | .error _ => return false

/-- `_cancel_after_abort`. -/
def cancelAfterAbort (run : PipelineRun) (session : LoadSession) : Transfer Unit := do
  let rolledBack ← abortQuietly session
  cancelClaimedRun (some
    (if !rolledBack then .uncertain
      else if run.loadedRows ≠ 0 then .rolledBack else .unchanged))

/-- The run has exceeded its time limit. -/
def timedOut (j : Job) (started : Time) : Transfer Bool := do
  let now ← ask .clock
  return decide (now - started > seconds j.settings.pipelineMaxRunSeconds)

def runTimeout : Exn :=
  .connector { code := .runTimeout, summary := "The run exceeded its time limit." }

/-! ## Before the scan -/

/-- `_destination_row_count`. -/
def destinationRowCount (d : Destination) : Transfer (Option Int) := do
  if !d.adapter.rowCounter || !d.capabilities.exactRowCounts then return none
  else match ← attempt (ask .countDestinationRows) with
    | .ok value => return value
    | .error _ => return none

/-- The destination is able to inspect its schema. -/
def Destination.inspects (d : Destination) : Bool :=
  d.adapter.schemaInspector && d.capabilities.schemaInspection

/-- `_inspect_destination_schema`. -/
def inspectDestinationSchema (d : Destination) : Transfer (Option ObjectSchema) := do
  if !d.inspects then return none
  else match ← attempt (ask .inspectDestination) with
    | .ok inspected => return if inspected.columns.isEmpty then none else some inspected
    | .error _ => return none

/-- The checks of a Databricks source against its review. -/
def checkDatabricksSource (j : Job) (schema : ObjectSchema) : Except Exn Unit :=
  match j.snapshot.source.databricks? with
  | none => .ok ()
  | some source =>
    let identified := match schema.locator.databricks? with
      | some inspected => decide (inspected.objectId = source.objectId)
      | none => false
    if source.objectId = "" ∨ source.schemaFingerprint = "" ∨ source.sensitivityFingerprint = "" ∨
        !identified ∨ schema.schemaFingerprint ≠ source.schemaFingerprint ∨
        schema.sensitivityFingerprint ≠ source.sensitivityFingerprint then
      .error (schemaDrift
        "The Databricks source identity, schema, or sensitivity policy changed after review. Select the source and review its actions again.")
    else if j.snapshot.guardrailActions.any fun action =>
        action.detector = .foundryMetadata ||
          action.sourceKey ≠ j.lib.databricksGuardrailSourceKey source j.run.userId then
      .error (schemaDrift
        "A saved sensitive-data action is bound to an older Databricks review. Review the source actions again.")
    else if schema.metadataCoverage ≠ "verified" ∨ schema.schemaFingerprint = "" ∨
        schema.sensitivityFingerprint = "" then
      .error (fatal .metadataIncomplete
        "Databricks schema and sensitivity metadata coverage is incomplete.")
    else .ok ()

/-- `table_finding["table"]`. -/
def tableIdentity (locator : Locator) : String :=
  let identity := match locator with
    | .databricksTable t => t.catalog ++ "." ++ t.schemaName ++ "." ++ t.table
    | .foundryDatasetFiles datasetRid _ _ | .foundryUpload datasetRid _ _ _ => datasetRid
    | _ => ""
  if identity = "" then "Selected source table" else identity

/-- `table_finding` of a table-level sensitivity marking. -/
def tableFinding (locator : Locator) : Json :=
  let isDatabricks := locator.databricks?.isSome
  .obj [
    ("detector", .str (if isDatabricks then "databricks_metadata" else "foundry_metadata")),
    ("source", .str (if isDatabricks then "Databricks metadata" else "Foundry metadata")),
    ("column", .str "Table-level sensitivity"),
    ("count", .null),
    ("action", .null),
    ("outcome", .str "blocked"),
    ("table_level", .bool true),
    ("table", .str (tableIdentity locator))]

/-- The block of a source with a table-level sensitivity marking. -/
def blockMarkedTable (locator : Locator) : WorkerCall :=
  .blockRun
    ("Sensitive-data guardrails blocked the run before destination writes because " ++
      "source table " ++ tableIdentity locator ++ " has a table-level sensitivity marking.")
    (guardrailDocument [tableFinding locator] [] "blocked" false 0 0 [] []
      "Table-level sensitivity requires a different approved source.")

/-- What is known before the scan. -/
structure Validated where
  destination : Destination
  rowsBefore : Option Int
  schemaBefore : Option ObjectSchema
  sourceSchema : ObjectSchema

/-- `execute_transfer` up to the transition to `extracting`; `none` when the run has ended. -/
def validateRoute (j : Job) : Transfer (Option Validated) := do
  let destination ← lift (resolveRoute j)
  let go ← checkpoint (cancelClaimedRun none)
  if !go then return none
  else do
    let _ ← ask (.service (.heartbeat j.settings.pipelineLeaseSeconds))
    let _ ← ask .testSource
    let _ ← ask .testDestination
    let rowsBefore ← destinationRowCount destination
    let schemaBefore ← inspectDestinationSchema destination
    let sourceSchema ← ask .inspectSource
    let _ ← lift (checkDatabricksSource j sourceSchema)
    let go ← checkpoint (cancelClaimedRun none)
    if !go then return none
    else if sourceSchema.sensitivityMarkers ≠ [] then do
      let _ ← ask (.service (blockMarkedTable j.snapshot.source))
      return none
    else do
      let _ ← ask (.service (.transition .extracting
        "Source and destination connections validated."))
      return some { destination, rowsBefore, schemaBefore, sourceSchema }

/-! ## The scan -/

/-- The variables of the scan loop, but for the time of the last heartbeat. -/
structure ScanState where
  schema : ObjectSchema
  columns : List String := []
  scannedRows : Nat := 0
  scannedBytes : Nat := 0
  ssnCounts : List (String × Nat) := []
  spool : Spool

/-- The variables before the loop. -/
def initialScan (j : Job) (sourceSchema : ObjectSchema) : ScanState where
  schema := sourceSchema
  spool := { runId := utf8 j.run.id, maximumBytes := j.settings.pipelineMaxSpoolBytes }

/-- The schema of the scan once a batch has been seen: a source without columns gets those of the
batch. -/
def inferSchema (j : Job) (sourceSchema schema : ObjectSchema) (frame : Frame) : ObjectSchema :=
  if schema.columns ≠ [] then schema
  else { sourceSchema with
    locator := j.snapshot.source
    columns := frame.columns.map fun series => { name := series.name, dataType := series.dtype }
    removedColumns := [] }

/-- The names of a frame are not those of the schema, or their types are not. -/
def drifted (lib : Library) (schema : ObjectSchema) (frame : Frame) : Bool :=
  !(frame.names.all (· ∈ schema.names) && schema.names.all (· ∈ frame.names) &&
      frame.names.length = schema.names.length) ||
    schema.columns.any fun column =>
      match frame.column? column.name with
      | some series =>
        normalizedSourceType lib column.dataType ≠ normalizedSourceType lib series.dtype
      | none => true

/-- The batch with its columns in the given order. -/
def selectColumns (batch : TransferBatch) (columns : List String) : Except Exn TransferBatch :=
  if batch.frame.names = columns then .ok batch
  else (fun frame => { batch with frame := frame }) <$> batch.frame.select columns

/-- What the scan loop does with a batch between its checkpoint and its heartbeat. -/
def scanData (j : Job) (sourceSchema : ObjectSchema) (st : ScanState) (batch : TransferBatch) :
    Except Exn ScanState :=
  let scannedBytes := st.scannedBytes + batch.byteCount
  if scannedBytes > j.settings.pipelineMaxSourceBytes then
    .error (.connector {
      code := .sourceLimitExceeded, summary := "The source exceeded the configured size limit." })
  else
    let schema := inferSchema j sourceSchema st.schema batch.frame
    if drifted j.lib schema batch.frame then
      .error (schemaDrift "The source schema changed during extraction.")
    else do
      let batch ← selectColumns batch schema.names
      let spool ← st.spool.append j.lib batch
      return { st with
        schema
        columns := schema.names
        scannedRows := st.scannedRows + batch.rowCount
        scannedBytes
        ssnCounts := addScan st.ssnCounts
          (scanSsnFrame j.lib batch.frame (metadataSensitiveColumns sourceSchema))
        spool }

/-- What the scan loop computes from the batches of a source. -/
def scanAll (j : Job) (sourceSchema : ObjectSchema) (batches : List TransferBatch) :
    Except Exn ScanState :=
  batches.foldlM (scanData j sourceSchema) (initialScan j sourceSchema)

/-- The lease is renewed every ten seconds, or every third of a shorter lease. -/
def heartbeatDue (j : Job) (lastHeartbeat now : Time) : Bool :=
  decide (min (seconds 30) (seconds j.settings.pipelineLeaseSeconds) ≤ 3 * (now - lastHeartbeat))

/-- One iteration of the scan loop; `none` when the run has been cancelled. -/
def scanBatch (j : Job) (sourceSchema : ObjectSchema) (started lastHeartbeat : Time)
    (st : ScanState) (batch : TransferBatch) : Transfer (Option (ScanState × Time)) := do
  let go ← checkpoint (cancelClaimedRun none)
  if !go then return none
  else do
    let late ← timedOut j started
    if late then .throw runTimeout
    else do
      let st ← lift (scanData j sourceSchema st batch)
      let now ← ask .clock
      if heartbeatDue j lastHeartbeat now then do
        let _ ← ask (.service (.heartbeat j.settings.pipelineLeaseSeconds))
        let now ← ask .clock
        return some (st, now)
      else return some (st, lastHeartbeat)

/-- The scan loop over what the source yields. -/
def scanLoop (j : Job) (sourceSchema : ObjectSchema) (started : Time) (failure : Option Exn) :
    Time → ScanState → List TransferBatch → Transfer (Option ScanState)
  | _, st, [] =>
    match failure with
    | none => return some st
    | some e => .throw e
  | lastHeartbeat, st, batch :: rest => do
    match ← scanBatch j sourceSchema started lastHeartbeat st batch with
    | none => return none
    | some (st, lastHeartbeat) => scanLoop j sourceSchema started failure lastHeartbeat st rest

/-- The scan with its `finally` clause: the source iterator is closed however the scan ends. -/
def scanSource (j : Job) (sourceSchema : ObjectSchema) (started : Time) :
    Transfer (Option ScanState) := do
  let _ ← ask (.appendEvent "Scanning the complete source before destination staging." .guardrails)
  let source ← ask (.extract j.settings.pipelineBatchRows j.settings.pipelineBatchTargetBytes)
  match ← attempt (scanLoop j sourceSchema started source.failure started
      (initialScan j sourceSchema) source.batches) with
  | .ok (some st) =>
    match ← attempt (ask .closeSource) with
    | .ok _ => return some st
    | .error e => do
      let _ ← ask .closeSource
      .throw e
  | .ok none => do
    let _ ← ask .closeSource
    return none
  | .error e => do
    let _ ← ask .closeSource
    .throw e

/-! ## The decision -/

/-- The checks of the source after the scan, on its refreshed schema. -/
def checkRefreshed (j : Job) (sourceSchema refreshed : ObjectSchema) : Except Exn Unit :=
  match j.snapshot.source with
  | .databricksTable _ =>
    let identified := match refreshed.locator.databricks?, sourceSchema.locator.databricks? with
      | some a, some b => decide (a.objectId = b.objectId)
      | _, _ => false
    if !identified ∨ refreshed.schemaFingerprint ≠ sourceSchema.schemaFingerprint ∨
        refreshed.sensitivityFingerprint ≠ sourceSchema.sensitivityFingerprint then
      .error (schemaDrift
        "Databricks source identity, schema, or sensitivity policy changed during the scan. Review the route before retrying.")
    else .ok ()
  | .postgresTable _ _ =>
    let shape (schema : ObjectSchema) :=
      schema.columns.map fun column => (column.name, column.dataType, column.nullable)
    if shape sourceSchema ≠ shape refreshed ∨ sourceSchema.primaryKey ≠ refreshed.primaryKey ∨
        sourceSchema.uniqueConstraints ≠ refreshed.uniqueConstraints then
      .error (schemaDrift
        "PostgreSQL source schema changed during the scan. Review the route before retrying.")
    else .ok ()
  | _ => .ok ()

/-- Inspect a database source again after the scan. -/
def refreshSource (j : Job) (sourceSchema : ObjectSchema) : Transfer Unit := do
  if j.snapshot.source.databricks?.isSome || j.snapshot.source.isPostgres then do
    let refreshed ← ask .inspectSource
    lift (checkRefreshed j sourceSchema refreshed)
  else return ()

/-- `destination_schema or destination.inspect_object(...)`. -/
def inspectedOr : Option ObjectSchema → Transfer ObjectSchema
  | some schema => return schema
  | none => ask .inspectDestination

/-- `_validate_upsert_policy`. -/
def validateUpsertPolicy (j : Job) (destination : Destination) (sourceSchema : ObjectSchema)
    (destinationSchema : Option ObjectSchema) : Transfer (Option ObjectSchema) := do
  match j.snapshot.writePolicy.mode with
  | .postgresUpsert conflictColumns _ =>
    if destinationSchema.isNone && !destination.inspects then
      .throw (schemaDrift "Destination schema inspection is required for PostgreSQL upsert.")
    else do
      let inspected ← inspectedOr destinationSchema
      if conflictColumns ∉ (inspected.primaryKey :: inspected.uniqueConstraints).filter (· ≠ []) then
        .throw (schemaDrift
          "The saved upsert key is no longer a primary or unique destination constraint.")
      else if ¬ ∀ column ∈ conflictColumns, column ∈ sourceSchema.names then
        .throw (schemaDrift
          "The source does not contain every column required by the destination upsert key.")
      else return some inspected
  | _ => return destinationSchema

/-- What the destination is opened for. -/
structure Plan where
  scan : ScanState
  decision : Decision
  guardrail : Document
  schema : ObjectSchema
  destinationSchema : Option ObjectSchema

/-- The schema that the destination is prepared for. -/
def destinationSchemaFor (j : Job) (schema : ObjectSchema) (effective : List (String × ActionName)) :
    Except Exn ObjectSchema := do
  let original ← applyColumnTypeOverridesToSchema schema j.snapshot.writePolicy.columnTypeOverrides
  projectSchemaForGuardrails original effective

/-- From the end of the scan to the transition to `loading`; `none` when the run has ended. -/
def decideGuardrails (j : Job) (v : Validated) (scan : ScanState) : Transfer (Option Plan) := do
  let go ← checkpoint (cancelClaimedRun none)
  if !go then return none
  else do
    refreshSource j v.sourceSchema
    let decision := guardrailDecision j.snapshot v.sourceSchema scan.schema scan.ssnCounts
      v.schemaBefore
    let guardrail := decision.document scan.scannedRows scan.scannedBytes
    if decision.blockedReason ≠ "" then do
      let _ ← ask (.service (.blockRun (blockedSummary decision) guardrail))
      return none
    else do
      let schema ← lift (destinationSchemaFor j scan.schema decision.effective)
      let _ ← ask (.service (.recordGuardrailReview guardrail))
      let destinationSchema ← validateUpsertPolicy j v.destination schema v.schemaBefore
      let go ← checkpoint (cancelClaimedRun none)
      if !go then return none
      else do
        let _ ← ask (.service (.transition .loading "Starting destination load."))
        return some { scan, decision, guardrail, schema, destinationSchema }

/-- The part of the `try` block before a session is open. -/
def openSession (j : Job) (v : Validated) (started : Time) :
    Transfer (Option (Plan × LoadSession)) := do
  match ← scanSource j v.sourceSchema started with
  | none => return none
  | some scan =>
    match ← decideGuardrails j v scan with
    | none => return none
    | some plan => do
      let session ← ask (.prepareDestination plan.schema j.snapshot.writePolicy j.run.id)
      return some (plan, session)

/-! ## The load -/

/-- The key that is derived from the active token key for the user and the pipeline. -/
def Job.guardrailKey (j : Job) (key : Bytes) : Bytes :=
  j.lib.hmacSha256 key
    (utf8 "data-mover-sensitive-guardrail-v1" ++ [0] ++ utf8 j.run.userId ++ [0] ++
      utf8 (j.run.pipelineDefinitionId.getD ""))

/-- `_guardrail_hmac_key`, when there are hashed columns. -/
def guardrailHmacKey (j : Job) (plan : Plan) : Except Exn Bytes :=
  if plan.decision.hashedColumns.isEmpty then .ok []
  else match j.settings.apiTokenKey with
    | none => .error (.other "KeyError")
    | some key => .ok (j.guardrailKey key)

/-- The batch that is written for a batch: its columns in the order of the scan, cast and guarded. -/
def writtenBatch (lib : Library) (columns : List String) (overrides : List (String × ColumnType))
    (effective : List (String × ActionName)) (hmacKey : Bytes) (batch : TransferBatch) :
    Except Exn TransferBatch := do
  let batch ← selectColumns batch columns
  let batch ← castBatchColumns lib batch overrides
  transformBatchForGuardrails lib batch effective hmacKey

/-- The names of a spooled frame are not those of the scan. -/
def namesDrifted (columns : List String) (frame : Frame) : Bool :=
  !(frame.names.all (· ∈ columns) && columns.all (· ∈ frame.names))

/-- The variables of the write loop; `run` is the worker's copy of the row. -/
structure LoadState where
  run : PipelineRun
  extractedRows : Nat := 0
  extractedBytes : Nat := 0
  loadedBytes : Nat := 0

/-- One iteration of the write loop; `none` when the run has been cancelled. -/
def loadBatch (j : Job) (plan : Plan) (session : LoadSession) (hmacKey : Bytes) (started : Time)
    (st : LoadState) (batch : TransferBatch) : Transfer (Option LoadState) := do
  let go ← checkpoint (cancelAfterAbort st.run session)
  if !go then return none
  else do
    let late ← timedOut j started
    if late then .throw runTimeout
    else if namesDrifted plan.scan.columns batch.frame then
      .throw (schemaDrift "The source schema changed during extraction.")
    else do
      let written ← lift (writtenBatch j.lib plan.scan.columns
        j.snapshot.writePolicy.columnTypeOverrides plan.decision.effective hmacKey batch)
      let _ ← ask (.service (.addCounters {
        sourceRows := some written.rowCount, sourceBytes := batch.byteCount }))
      let _ ← ask (.appendEvent
        ("Extracted batch " ++ toString written.sequence ++ ": " ++
          toString written.rowCount ++ " rows.") .inspect)
      let result ← ask (.writeBatch session written)
      let run ← ask (.service (.addCounters {
        loadedRows := some result.rowsAcknowledged, loadedBytes := result.bytesAcknowledged }))
      let _ ← ask (.appendEvent
        ("Loaded batch " ++ toString written.sequence ++ ": " ++
          toString result.rowsAcknowledged ++ " rows.") .transfer)
      return some {
        run
        extractedRows := st.extractedRows + batch.rowCount
        extractedBytes := st.extractedBytes + batch.byteCount
        loadedBytes := st.loadedBytes + result.bytesAcknowledged }

/-- The write loop over what the spool yields. -/
def loadLoop (j : Job) (plan : Plan) (session : LoadSession) (hmacKey : Bytes) (started : Time)
    (failure : Option Exn) : LoadState → List TransferBatch → Transfer (Option LoadState)
  | st, [] =>
    match failure with
    | none => return some st
    | some e => .throw e
  | st, batch :: rest => do
    match ← loadBatch j plan session hmacKey started st batch with
    | none => return none
    | some st => loadLoop j plan session hmacKey started failure st rest

/-- The part of the `try` block with an open session, up to `finalize`. -/
def loadAndFinalize (j : Job) (plan : Plan) (session : LoadSession) (started : Time) :
    Transfer (Option (LoadState × DestinationManifest)) := do
  let hmacKey ← lift (guardrailHmacKey j plan)
  let spooled := plan.scan.spool.batches j.lib
  match ← loadLoop j plan session hmacKey started spooled.failure { run := j.run }
      spooled.batches with
  | none => return none
  | some st => do
    let go ← checkpoint (cancelAfterAbort st.run session)
    if !go then return none
    else do
      let run ← ask (.service (.transition .verifying "Finalizing destination write."))
      let go ← checkpoint (cancelAfterAbort run session)
      if !go then return none
      else do
        let manifest ← ask (.finalize session)
        return some (st, manifest)

/-! ## The result -/

/-- A number of rows, or JSON `null`. -/
def rowsJson (rows : Option Int) : Json := (rows.map Json.int).getD .null

/-- The first facts of `_reconcile_write_result`. -/
def reconciliationFacts (policy : WritePolicy) (sourceRows : Nat) (manifest : DestinationManifest)
    (before after : Option Int) : Document := [
  ("source_rows", .int sourceRows),
  ("loaded_rows", .int manifest.rows),
  ("destination_rows_before", rowsJson before),
  ("destination_rows_after", rowsJson after),
  ("destination_row_delta", match before, after with
    | some b, some a => .int (a - b)
    | _, _ => .null),
  ("write_policy", .str policy.mode.kind)]

/-- `_reconcile_write_result`: the verification level, the error and the facts. -/
def reconcileWriteResult (lib : Library) (policy : WritePolicy) (sourceRows : Nat)
    (manifest : DestinationManifest) (before after : Option Int)
    (capabilities : ProviderCapabilities) : String × Option String × Document :=
  let facts := reconciliationFacts policy sourceRows manifest before after
  let weakLevel := if capabilities.verificationLevel = "exact" then "provider_write_count"
    else capabilities.verificationLevel
  match policy.mode with
  | .postgresAppend _ _ =>
    let facts := facts.set "expected_rows" (.int sourceRows)
    if manifest.rows ≠ sourceRows then
      (weakLevel, some ("Append reconciliation failed: the destination reported " ++
        toString manifest.rows ++ " rows for " ++ toString sourceRows ++
        " source rows. Inspect the destination before retrying."), facts)
    else match before, after with
      | some b, some a =>
        -- other runs and clients may have changed the table meanwhile
        if a - b ≠ sourceRows then
          ("provider_write_count", none, facts.set "verification_limitation"
            (.str "aggregate_count_changed_during_transfer"))
        else ("exact", none, facts)
      | _, _ => ("provider_write_count", none, facts)
  | .postgresReplace _ _ _ =>
    let facts := facts.set "expected_rows" (.int sourceRows)
    if manifest.rows ≠ sourceRows then
      (weakLevel, some ("Replace reconciliation failed: the destination reported " ++
        toString manifest.rows ++ " rows for " ++ toString sourceRows ++
        " source rows. Inspect the destination before retrying."), facts)
    else match after with
      | none => ("provider_write_count", none, facts)
      | some a =>
        if a ≠ sourceRows then
          (weakLevel, some ("Replace reconciliation failed: the destination contains " ++
            toString a ++ " rows after replacing it with " ++ toString sourceRows ++
            " source rows. Inspect the destination before retrying."), facts)
        else ("exact", none, facts)
  | .postgresUpsert _ _ =>
    match manifest.details.lookup "expected_rows" with
    | some text =>
      let expected := (lib.int text).getD (-1)
      let facts := facts.set "expected_rows" (.int expected)
      if expected < 0 ∨ manifest.rows ≠ expected then
        (weakLevel, some ("Upsert reconciliation failed: the destination did not apply the expected " ++
          toString expected ++ " distinct source keys (reported " ++ toString manifest.rows ++
          "). Inspect the destination before retrying."), facts)
      else ("exact", none, facts)
    | none =>
      if manifest.rows < 0 ∨ manifest.rows > sourceRows then
        (weakLevel, some ("Upsert reconciliation failed: the destination reported an impossible row count. " ++
          "Inspect the destination before retrying."), facts)
      else ("provider_write_count", none, facts)
  | _ => (weakLevel, none, facts)

/-- `_schema_manifest`. -/
def schemaManifest (schema : ObjectSchema) : Json :=
  .obj [
    ("columns", .arr (schema.columns.map fun column => .obj [
      ("name", .str column.name),
      ("data_type", .str column.dataType),
      ("nullable", .bool column.nullable)])),
    ("primary_key", .arr (schema.primaryKey.map Json.str)),
    ("unique_constraints", .arr (schema.uniqueConstraints.map fun c => .arr (c.map Json.str)))]

/-- `manifest_metadata`. -/
def manifestMetadata (rows : Int) (schemaAvailable : Bool)
    (rowProvenance schemaProvenance : String) : Json :=
  .obj [
    ("rows", .obj [("value", .int rows), ("provenance", .str rowProvenance)]),
    ("schema", .obj [("available", .bool schemaAvailable), ("provenance", .str schemaProvenance)])]

/-- `_destination_schema_projection`. -/
def destinationSchemaProjection (after : Option ObjectSchema) (schema : ObjectSchema) :
    ObjectSchema × Bool × String :=
  let selected := after.getD schema
  let available := !selected.columns.isEmpty
  (selected, available,
    if !available then "unavailable" else if after.isSome then "captured" else "local_manifest")

/-- `verification` of `execute_transfer`. -/
def verificationOf (level : String) (facts : Document) (st : LoadState)
    (manifest : DestinationManifest) : Document :=
  facts.update [
    ("source_bytes", .int st.extractedBytes),
    ("loaded_bytes", .int (if manifest.bytes ≠ 0 then manifest.bytes else st.loadedBytes)),
    ("verification_level", .str level)]

/-- The guardrail review of a completed run. -/
def completedGuardrail (plan : Plan) : Document :=
  let applied := plan.decision.appliedActions ≠ []
  plan.guardrail.update [
    ("outcome", .str (if applied then "applied" else "clear")),
    ("execution_outcome", .str (if applied then "completed" else "not_applicable")),
    ("destination_outcome", .str "committed"),
    ("findings", .arr (plan.decision.findings.map fun f =>
      { f with outcome := if f.action.isSome then "applied" else f.outcome }.json))]

/-- The arguments of `complete_run`. -/
def completionOf (plan : Plan) (st : LoadState) (manifest : DestinationManifest)
    (verification : Document) (rowsAfter : Option Int) (schemaAfter : Option ObjectSchema) :
    PipelineRun.CompleteArgs :=
  let source := plan.scan.schema
  let (persisted, available, provenance) := destinationSchemaProjection schemaAfter plan.schema
  { sourceManifest := [
      ("rows", .int st.extractedRows),
      ("bytes", .int st.extractedBytes),
      ("schema", schemaManifest source),
      ("metadata", manifestMetadata st.extractedRows (!source.columns.isEmpty) "exact"
        (if source.columns.isEmpty then "unavailable" else "captured"))]
    destinationManifest := [
      ("rows", .int manifest.rows),
      ("bytes", .int manifest.bytes),
      ("checksum", .str manifest.checksum),
      ("remote_id", .str manifest.remoteId),
      ("details", .obj (manifest.details.map fun e => (e.1, .str e.2))),
      ("schema", schemaManifest persisted),
      ("schema_before", (plan.destinationSchema.map schemaManifest).getD .null),
      ("metadata", manifestMetadata manifest.rows available
        (if rowsAfter.isSome then "exact" else "local_manifest") provenance)]
    verification
    guardrail := some (completedGuardrail plan) }

/-- `_refresh_published_destination_cache`, which raises nothing. -/
def refreshPublishedDestinationCache (j : Job) : Transfer Unit := do
  match j.snapshot.destination with
  | .foundryUpload _ _ _ _ | .databricksTable _ => do
    let _ ← attempt (ask .refreshPublishedDestinationCache)
    return ()
  | _ => return ()

/-- The part of the `try` block after `finalize` returned. -/
def recordResult (j : Job) (v : Validated) (plan : Plan) (st : LoadState)
    (manifest : DestinationManifest) : Transfer Unit := do
  let rowsAfter ← destinationRowCount v.destination
  let schemaAfter ← inspectDestinationSchema v.destination
  let (level, error, facts) := reconcileWriteResult j.lib j.snapshot.writePolicy st.extractedRows
    manifest v.rowsBefore rowsAfter v.destination.capabilities
  let verification := verificationOf level facts st manifest
  match error with
  | some summary => do
    let _ ← ask (.service (.failRun {
      code := .known .verificationFailed, summary, needsReconciliation := true
      verificationFacts := some verification }))
    refreshPublishedDestinationCache j
  | none => do
    let _ ← ask (.service (.completeRun
      (completionOf plan st manifest verification rowsAfter schemaAfter)))
    refreshPublishedDestinationCache j

/-! ## The whole transfer -/

def publishUncertain (summary : String) : Exn := fatal .publishUncertain summary

/-- Abort the session that is open, if any: whether the connector confirmed the rollback. -/
def abortOpen : Option LoadSession → Transfer (Option Bool)
  | some session => do
    let rolledBack ← abortQuietly session
    return some rolledBack
  | none => return none

/-- The `except` block, with the values of `session` and `destination_committed`. -/
def onFailure {α : Type} (session : Option LoadSession) (committed : Bool) (exc : Exn) :
    Transfer α := do
  let rolledBack ← abortOpen session
  if committed then
    .throw (publishUncertain
      "The destination committed, but final run-state persistence was not confirmed.")
  else if rolledBack = some false ∧ !exc.isRunConflict then
    .throw (publishUncertain
      "Destination cleanup could not be confirmed after the transfer failed.")
  else if rolledBack = some true ∧ !exc.isRunConflict then
    match exc with
    | .connector e => .throw (.connector { e with dataImpact := some .rolledBack })
    | _ => .throw (.connector {
        code := .internalError, retryable := false, dataImpact := some .rolledBack
        summary := "The transfer failed after the destination changes were rolled back." })
  else .throw exc

/-- A part of the `try` block. -/
def guarded {α : Type} (session : Option LoadSession) (committed : Bool) (body : Transfer α) :
    Transfer α := do
  match ← attempt body with
  | .ok a => return a
  | .error exc => onFailure session committed exc

/-- `execute_transfer`. -/
def executeTransfer (j : Job) : Transfer Unit := do
  match ← validateRoute j with
  | none => return ()
  | some v => do
    let started ← ask .clock
    match ← guarded none false (openSession j v started) with
    | none => return ()
    | some (plan, session) =>
      match ← guarded (some session) false (loadAndFinalize j plan session started) with
      | none => return ()
      | some (st, manifest) => guarded (some session) true (recordResult j v plan st manifest)

end DataMover
