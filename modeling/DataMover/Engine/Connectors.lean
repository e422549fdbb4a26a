import DataMover.Engine.Conformance
import DataMover.Runs.Writing

/-!
# The destination connectors

How the PostgreSQL, Foundry and Databricks connectors end a load session: `finalize` with its error
paths and `abort`, over what the provider does.  A commit may have taken effect although the provider
raised.  PostgreSQL and Foundry forget this before `abort` is called, and the engine records the run as
rolled back; Databricks remembers it (`uncertain_commit_recorded_iff`).
-/

namespace DataMover

open Program (Runs Served Sat)

/-! ## Faults -/

/-- The exception is a `ConnectorError` with the code `PUBLISH_UNCERTAIN`. -/
def Exn.uncertain : Exn → Bool
  | .connector e => decide (e.code = .publishUncertain)
  | _ => false

/-- What the code below a connector raises; only `finalize` itself calls a publication uncertain. -/
abbrev Fault := { e : Exn // e.uncertain = false }

/-- `part in text`. -/
def contains (text part : String) : Bool := text.toList.tails.any fun rest =>
  part.toList.isPrefixOf rest

/-- `text.removeprefix(start)`. -/
def removePrefix (start text : String) : String :=
  match start.toList.isPrefixOf? text.toList with
  | some rest => String.ofList rest
  | none => text

/-! ## PostgreSQL -/

/-- What a database call raises: a `psycopg.Error` with its SQLSTATE, or another exception. -/
inductive PostgresFault where
  | psycopg (sqlstate : Option String)
  | other (e : Fault)

/-- A SQLSTATE of the form `[0-9A-Z]{5}`. -/
def safeSqlstate : Option String → String
  | some s => if s.length = 5 ∧ s.toList.all fun c => c.isDigit || c.isUpper then s else ""
  | none => ""

/-- `_postgres_connector_error`. -/
def postgresConnectorError (sqlstate : Option String) (operation : String) : ConnectorError :=
  let state := safeSqlstate sqlstate
  let starts (start : String) := start.toList.isPrefixOf state.toList
  let detail := if state = "" then "" else " (SQLSTATE " ++ state ++ ")"
  let code : TransferErrorCode :=
    if starts "08" || starts "40" then .providerUnavailable
    else if starts "22" || decide (state ∈ ["42703", "42804", "42846"]) then .schemaDrift
    else if starts "23" then .destinationConflict
    else .internalError
  { code
    summary := "PostgreSQL rejected the " ++ operation ++ detail ++ "."
    retryable := decide (code = .providerUnavailable) }

/-- What PostgreSQL does during `finalize`. -/
structure PostgresFinalize where
  /-- The loaded rows, and the rows that an upsert expects. -/
  statements : Except PostgresFault (Int × Option Int) := .ok (0, none)
  /-- What `COMMIT` raises; it may have taken effect. -/
  commit : Option PostgresFault := none

namespace Postgres

/-- `PostgresConnector.finalize`; its state says whether `_load_conn` is set. -/
def finalize (o : PostgresFinalize) (loadConn : Bool) : Except Exn DestinationManifest × Bool :=
  if !loadConn then
    (.error (.connector {
      code := .internalError, summary := "Destination session is not open." }), false)
  else match o.statements with
    | .error (.psycopg sqlstate) =>
      (.error (.connector (postgresConnectorError sqlstate "destination finalization")), true)
    | .error (.other e) => (.error e.1, true)
    | .ok (loaded, expected) =>
      match o.commit with
      | some (.psycopg _) =>
        (.error (publishUncertain
          "PostgreSQL did not confirm whether the destination transaction committed."), false)
      | some (.other e) => (.error e.1, true)
      | none =>
        (.ok {
          rows := loaded
          bytes := 0
          details := (expected.map fun n => ("expected_rows", toString n)).toList }, false)

/-- `PostgresConnector.abort`; `rollback` says whether `conn.rollback()` returns. -/
def abort (rollback loadConn : Bool) : AbortResult × Bool :=
  (if !loadConn || rollback then .rolledBack else .uncertain, false)

end Postgres

/-! ## Foundry -/

/-- `FoundryConnector.finalize`, from what the staging and the upload report or raise. -/
def Foundry.finalize : Except Fault DestinationManifest → Except Exn DestinationManifest
  | .ok manifest => .ok manifest
  | .error ⟨.connector e, _⟩ =>
    if e.code = .connectionTimeout ∨ e.code = .providerUnavailable then
      .error (publishUncertain "The Foundry upload timed out before confirmation.")
    else .error (.connector e)
  | .error e => .error e.1

/-! ## Databricks -/

/-- What `_provider_error` reads of an exception: its status and the folded name of its type. -/
structure ProviderException where
  status : Option Nat := none
  name : String
  notFound : Bool := false

/-- `_provider_error`. -/
def providerError (exc : ProviderException) (operation : String) (destination : Bool) :
    ConnectorError :=
  let name := exc.name
  let missing := exc.notFound || exc.status = some 404 || contains name "notfound"
  let code : TransferErrorCode :=
    if exc.status = some 429 || contains name "toomanyrequests" || contains name "ratelimit" then
      .rateLimited
    else if exc.status = some 401 || contains name "unauthenticated" then .authenticationFailed
    else if exc.status = some 403 || contains name "permissiondenied" then .permissionDenied
    else if destination && missing then .destinationNotFound
    else if missing then .sourceNotFound
    else if destination && (exc.status = some 409 || contains name "alreadyexists" ||
        contains name "conflict") then .destinationConflict
    else if contains name "timeout" then .connectionTimeout
    else if exc.status.any (500 ≤ ·) || decide (name ∈ ["connectionerror", "chunkedencodingerror"])
      then .providerUnavailable
    else .internalError
  { code
    summary := "Databricks " ++ operation ++ " could not be completed."
    retryable := decide (code ∈
      [TransferErrorCode.rateLimited, .providerUnavailable, .connectionTimeout]) }

/-- What Databricks and the publication ledger do during `finalize`. -/
structure DatabricksFinalize where
  /-- What `_validate_target` raises. -/
  validate : Option Fault := none
  /-- What `_is_serverless_warehouse` raises. -/
  warehouse : Option Fault := none
  /-- What the session or the record of `publish_submitted` raises. -/
  submission : Option ProviderException := none
  /-- The statement raises; it may have taken effect. -/
  statementRaises : Bool := false
  /-- What the record of `committed` raises. -/
  committed : Option Fault := none
  /-- The staging table is not dropped, or this is not recorded. -/
  cleanupPending : Bool := false

/-- What Databricks and the publication ledger do during `abort`. -/
structure DatabricksAbort where
  dropRaises : Bool := false
  /-- What the record of `abort_confirmed` raises. -/
  confirmed : Option Fault := none

namespace Databricks

/-- `_LoadState`, without what only the statements use. -/
structure LoadState where
  policy : WriteMode
  columns : List String
  rows : Nat := 0
  bytes : Nat := 0
  publishSubmitted : Bool := false

/-- `_loads`. -/
abbrev Loads := String → Option LoadState

/-- `str(load_session.metadata.get("run_id", ""))`. -/
def runIdOf (session : LoadSession) : String := (session.metadata.lookup "run_id").getD ""

/-- The session that `prepare_destination` opens. -/
def openedSession (schema : ObjectSchema) (runId : String) : LoadSession where
  stagingName := "data_mover_" ++ clip 32 (String.ofList (runId.toList.filter (· ≠ '-')))
  columns := schema.names
  metadata := [("run_id", runId)]

def sessionLost : Exn := fatal .workerLost
  "The Databricks staging session is no longer available; reconcile this run before retrying."

def columnsDrift : Exn := fatal .schemaDrift
  "The Databricks staging batch columns no longer match the reviewed output schema."

/-- `DatabricksConnector.write_batch`, with what the statements and the record raise. -/
def writeBatch (statements : Option ProviderException) (recorded : Option Fault) (loads : Loads)
    (session : LoadSession) (batch : TransferBatch) : Except Exn BatchWriteResult × Loads :=
  match loads (runIdOf session) with
  | none => (.error sessionLost, loads)
  | some st =>
    if namesDrifted st.columns batch.frame then (.error columnsDrift, loads)
    else match statements with
      | some exc =>
        (.error (.connector (providerError exc "staging batch write" true)), loads)
      | none =>
        let loads := Function.update loads (runIdOf session) (some { st with
          rows := st.rows + batch.rowCount, bytes := st.bytes + batch.byteCount })
        match recorded with
        | some e => (.error e.1, loads)
        | none => (.ok ⟨batch.rowCount, batch.byteCount⟩, loads)

/-- The statement of `finalize` exists for the policies of Databricks. -/
def publishes : WriteMode → Bool
  | .databricksCreate | .databricksAppend | .databricksReplace => true
  | _ => false

/-- `DatabricksConnector.finalize`. -/
def finalize (o : DatabricksFinalize) (loads : Loads) (session : LoadSession) :
    Except Exn DestinationManifest × Loads :=
  let runId := runIdOf session
  match loads runId with
  | none => (.error sessionLost, loads)
  | some st =>
    match o.validate with
    | some e => (.error e.1, loads)
    | none =>
      if !publishes st.policy then
        (.error (fatal .internalError "The selected Databricks write policy is unsupported."), loads)
      else match o.warehouse with
        | some e => (.error e.1, loads)
        | none =>
          match o.submission with
          | some exc =>
            (.error (.connector (providerError exc "pre-publication validation" true)), loads)
          | none =>
            let submitted := Function.update loads runId (some { st with publishSubmitted := true })
            if o.statementRaises then
              (.error (publishUncertain
                "Databricks publication was submitted but its outcome could not be confirmed. Review the destination before retrying."),
                submitted)
            else match o.committed with
              | some e => (.error e.1, submitted)
              | none =>
                (.ok {
                  rows := st.rows
                  bytes := st.bytes
                  remoteId := runId
                  details := [
                    ("write_mode", removePrefix "databricks_" st.policy.kind),
                    ("staging_cleanup_pending", if o.cleanupPending then "true" else "false")] },
                  Function.update loads runId none)

/-- `DatabricksConnector.abort`. -/
def abort (o : DatabricksAbort) (loads : Loads) (session : LoadSession) :
    Except Exn AbortResult × Loads :=
  let runId := runIdOf session
  match loads runId with
  | none => (.ok .uncertain, loads)
  | some st =>
    if st.publishSubmitted || o.dropRaises then (.ok .uncertain, loads)
    else match o.confirmed with
      | some e => (.error e.1, loads)
      | none => (.ok .rolledBack, Function.update loads runId none)

end Databricks

/-! ## Connectors -/

/-- A destination connector with its state. -/
inductive Connector where
  | postgres (loadConn : Bool)
  | foundry
  | databricks (loads : Databricks.Loads)

/-- The connector is a `DatabricksConnector`. -/
def Connector.isDatabricks : Connector → Bool
  | databricks _ => true
  | _ => false

/-- What everything outside the connectors does during one call. -/
structure Provider where
  /-- The other calls of the worker, and what a connector does before its session is finalized. -/
  answer : (c : Call) → Except Exn c.Answer
  postgres : PostgresFinalize := {}
  rollback : Bool := true
  foundry : Except Fault DestinationManifest := .ok { rows := 0, bytes := 0 }
  databricks : DatabricksFinalize := {}
  abort : DatabricksAbort := {}
  staging : Option ProviderException := none
  batchRecorded : Option Fault := none

namespace Connector

/-- `prepare_destination`, from what it returns or raises. -/
def prepared (c : Connector) (schema : ObjectSchema) (policy : WritePolicy) (runId : String) :
    Except Exn LoadSession → Except Exn LoadSession × Connector
  | .error e => (.error e, c)
  | .ok session =>
    match c with
    | postgres _ => (.ok session, postgres true)
    | foundry => (.ok session, foundry)
    | databricks loads =>
      (.ok (Databricks.openedSession schema runId), databricks (Function.update loads runId
        (some { policy := policy.mode, columns := schema.names })))

/-- `write_batch`. -/
def writeBatch (o : Provider) (session : LoadSession) (batch : TransferBatch) :
    Connector → Except Exn BatchWriteResult × Connector
  | databricks loads =>
    let result := Databricks.writeBatch o.staging o.batchRecorded loads session batch
    (result.1, databricks result.2)
  | c => (o.answer (.writeBatch session batch), c)

/-- `finalize`. -/
def finalize (o : Provider) (session : LoadSession) :
    Connector → Except Exn DestinationManifest × Connector
  | postgres loadConn =>
    let result := Postgres.finalize o.postgres loadConn
    (result.1, postgres result.2)
  | foundry => (Foundry.finalize o.foundry, foundry)
  | databricks loads =>
    let result := Databricks.finalize o.databricks loads session
    (result.1, databricks result.2)

/-- `abort`. -/
def abort (o : Provider) (session : LoadSession) : Connector → Except Exn AbortResult × Connector
  | postgres loadConn =>
    let result := Postgres.abort o.rollback loadConn
    (.ok result.1, postgres result.2)
  | foundry => (.ok .rolledBack, foundry)
  | databricks loads =>
    let result := Databricks.abort o.abort loads session
    (result.1, databricks result.2)

/-- The answer to a call of the worker. -/
def serve (o : Provider) (c : Connector) : (call : Call) → Except Exn call.Answer × Connector
  | .prepareDestination schema policy runId =>
    c.prepared schema policy runId (o.answer (.prepareDestination schema policy runId))
  | .writeBatch session batch => c.writeBatch o session batch
  | .finalize session => c.finalize o session
  | .abort session => c.abort o session
  | call => (o.answer call, c)

end Connector

/-! ## After an uncertain commit -/

namespace Connector

/-- What is left of a session after `finalize` has raised `PUBLISH_UNCERTAIN`. -/
def Uncertain (session : LoadSession) : Connector → Prop
  | postgres loadConn => loadConn = false
  | foundry => True
  | databricks loads =>
    ∃ st, loads (Databricks.runIdOf session) = some st ∧ st.publishSubmitted = true

theorem isDatabricks_serve (o : Provider) (c : Connector) (call : Call) :
    (c.serve o call).2.isDatabricks = c.isDatabricks := by
  cases call with
  | prepareDestination schema policy runId =>
    simp only [serve]
    generalize o.answer _ = r
    cases r <;> cases c <;> rfl
  | writeBatch | finalize | abort => cases c <;> rfl
  | _ => rfl

theorem postgres_certain {sqlstate : Option String} {operation : String} :
    (postgresConnectorError sqlstate operation).code ≠ .publishUncertain := by
  unfold postgresConnectorError
  simp only
  split_ifs <;> exact nofun

theorem provider_certain {exc : ProviderException} {operation : String} {destination : Bool} :
    (providerError exc operation destination).code ≠ .publishUncertain := by
  unfold providerError
  simp only
  split_ifs <;> exact nofun

theorem Fault.certain {e : Fault} {e' : ConnectorError} (h : e.1 = .connector e') :
    e'.code ≠ .publishUncertain := by
  have := e.2
  rw [h] at this
  exact of_decide_eq_false this

variable {o : Provider} {session : LoadSession} {c : Connector} {e : ConnectorError}

/-- Only the commit itself is uncertain, and PostgreSQL has dropped its connection then. -/
theorem postgres_uncertain {o : PostgresFinalize} {loadConn : Bool}
    (h : (Postgres.finalize o loadConn).1 = .error (.connector e))
    (uncertain : e.code = .publishUncertain) : (Postgres.finalize o loadConn).2 = false := by
  obtain ⟨statements, commit⟩ := o
  unfold Postgres.finalize at h ⊢
  cases loadConn with
  | false => rfl
  | true =>
    simp only [Bool.not_true, Bool.false_eq_true, if_false] at h ⊢
    rcases statements with (⟨sqlstate⟩ | ⟨fault⟩) | ⟨loaded, expected⟩
    · cases h
      exact absurd uncertain postgres_certain
    · exact absurd uncertain (Fault.certain (Except.error.inj h))
    · rcases commit with _ | (⟨sqlstate⟩ | ⟨fault⟩)
      · cases h
      · rfl
      · exact absurd uncertain (Fault.certain (Except.error.inj h))

/-- Databricks has marked the session as submitted before it raises. -/
theorem databricks_uncertain {o : DatabricksFinalize} {loads : Databricks.Loads}
    (h : (Databricks.finalize o loads session).1 = .error (.connector e))
    (uncertain : e.code = .publishUncertain) :
    Uncertain session (.databricks (Databricks.finalize o loads session).2) := by
  obtain ⟨validate, warehouse, submission, statementRaises, committed, pending⟩ := o
  unfold Databricks.finalize at h ⊢
  rcases hs : loads (Databricks.runIdOf session) with _ | st
  · simp only [hs] at h
    cases h
    cases uncertain
  · simp only [hs] at h ⊢
    -- before the submission nothing is uncertain, and after it the session is marked
    cases validate with
    | some fault => exact absurd uncertain (Fault.certain (Except.error.inj h))
    | none =>
      by_cases policy : Databricks.publishes st.policy = true
      · simp only [policy, Bool.not_true, Bool.false_eq_true, if_false] at h ⊢
        cases warehouse with
        | some fault => exact absurd uncertain (Fault.certain (Except.error.inj h))
        | none =>
          cases submission with
          | some exc =>
            cases h
            exact absurd uncertain provider_certain
          | none =>
            cases statementRaises with
            | true => exact ⟨_, Function.update_self .., rfl⟩
            | false =>
              cases committed with
              | some fault => exact ⟨_, Function.update_self .., rfl⟩
              | none => cases h
      · simp only [policy, Bool.not_false, if_true] at h
        cases h
        cases uncertain

theorem finalize_uncertain (h : (c.finalize o session).1 = .error (.connector e))
    (uncertain : e.code = .publishUncertain) : (c.finalize o session).2.Uncertain session := by
  cases c with
  | postgres loadConn => exact postgres_uncertain h uncertain
  | foundry => trivial
  | databricks loads => exact databricks_uncertain h uncertain

/-- PostgreSQL and Foundry report a rollback for a session whose commit is uncertain. -/
theorem abort_uncertain (h : c.Uncertain session) :
    c.abort o session = (.ok (if c.isDatabricks then .uncertain else .rolledBack), c) := by
  cases c with
  | postgres loadConn =>
    obtain rfl : loadConn = false := h
    rfl
  | foundry => rfl
  | databricks loads =>
    obtain ⟨st, hs, submitted⟩ := h
    simp only [abort, Databricks.abort, hs, submitted, Bool.true_or, if_true]
    rfl

end Connector

/-! ## What the run records -/

/-- The worker has seen the uncertain commit, and its connector is left with it. -/
structure Aftermath (session : LoadSession) (e : ConnectorError) (isDatabricks : Bool) (p : Progress)
    (c : Connector) : Prop where
  finalized : p.finalized = .raised
  raised : p.raised = some (.connector e)
  opened : p.session = some session
  prepared : p.prepared ≠ []
  kind : c.isDatabricks = isDatabricks
  uncertain : c.Uncertain session
  rolledBack : ∀ b, p.rolledBack = some b → b = !isDatabricks

section Run

variable {session : LoadSession} {e : ConnectorError} {isDatabricks : Bool} {job : Option Job}

/-- What the worker still observes does not touch the facts about the destination. -/
theorem Aftermath.of_observe {p p' : Progress} {c : Connector}
    (h : Aftermath session e isDatabricks p c)
    (same : (p'.finalized, p'.raised, p'.session, p'.prepared, p'.rolledBack) =
      (p.finalized, p.raised, p.session, p.prepared, p.rolledBack)) :
    Aftermath session e isDatabricks p' c := by
  simp only [Prod.mk.injEq] at same
  obtain ⟨finalized, raised, opened, prepared, rolledBack⟩ := same
  exact ⟨finalized ▸ h.finalized, raised ▸ h.raised, opened ▸ h.opened, prepared ▸ h.prepared,
    h.kind, h.uncertain, rolledBack ▸ h.rolledBack⟩

theorem Aftermath.step (o : Provider) {p : Progress} {c : Connector} {call : Call}
    (allowed : Orderly job p call) (h : Aftermath session e isDatabricks p c) :
    Aftermath session e isDatabricks (p.observe call (c.serve o call).1) (c.serve o call).2 := by
  cases call with
  | prepareDestination schema policy runId => exact absurd allowed.2.1 h.prepared
  | writeBatch session batch =>
    have pending := h.finalized.symm.trans allowed.2.1
    cases pending
  | finalize session =>
    have pending := h.finalized.symm.trans allowed.2.2.1
    cases pending
  | abort session' =>
    obtain rfl : session' = session := Option.some.inj (allowed.symm.trans h.opened)
    show Aftermath _ _ _ (p.observe (.abort session') (c.abort o session').1) (c.abort o session').2
    rw [Connector.abort_uncertain h.uncertain]
    refine ⟨h.finalized, h.raised, h.opened, h.prepared, h.kind, h.uncertain, ?_⟩
    rintro b hb
    obtain rfl : decide (_ = _) = b := Option.some.inj hb
    rw [h.kind]
    cases isDatabricks <;> rfl
  | service call =>
    show Aftermath _ _ _ (p.observe (.service call) (o.answer (.service call))) c
    refine h.of_observe ?_
    generalize o.answer (.service call) = r
    cases call with
    | transition status message => cases status <;> cases r <;> rfl
    | _ => cases r <;> rfl
  | _ =>
    refine h.of_observe ?_
    simp only [Connector.serve]
    generalize o.answer _ = r
    cases r <;> rfl

/-- The state right after `finalize` has raised. -/
theorem Aftermath.start (o : Provider) {p : Progress} {c : Connector}
    (allowed : Orderly job p (.finalize session))
    (raised : (c.serve o (.finalize session)).1 = .error (.connector e))
    (uncertain : e.code = .publishUncertain) :
    Aftermath session e c.isDatabricks
      (p.observe (.finalize session) (c.serve o (.finalize session)).1)
      (c.serve o (.finalize session)).2 := by
  obtain ⟨opened, -, -, -, fresh, j, -, batches, ⟨_, plan, _, -, -, prepared, -⟩, -⟩ := allowed
  rw [raised]
  refine ⟨rfl, rfl, opened, ?_, Connector.isDatabricks_serve o c _,
    Connector.finalize_uncertain raised uncertain, ?_⟩
  · show p.prepared ≠ []
    rw [prepared]
    exact nofun
  · intro b hb
    exact absurd (fresh.symm.trans hb) nofun

/-- The outcome of a run whose publication is uncertain. -/
def PipelineRun.RecordsUncertainty (run : PipelineRun) : Prop :=
  run.status = .failedNeedsReconciliation ∧ run.dataImpact = some .uncertain ∧
    run.reconciliationRequired = true ∧ run.retryable = false

/-- What `fail_run` leaves for the exception that the engine raises. -/
theorem failRun_rethrown {R : Redaction} {now : Time} {row : PipelineRun} {token : Token}
    {e' : ConnectorError} {b : Bool} (held : row.LeaseHeld now token)
    (h : .connector e' = rethrown (.connector e) b) :
    ∃ row', row.failRun R now (connectorFailure e') (some token) = .ok row' ∧
      (row'.RecordsUncertainty ↔ b = false) := by
  have recorded : row.failRun R now (connectorFailure e') (some token) =
      .ok (row.recordFailure R now (connectorFailure e') (some token)) :=
    PipelineRun.guarded_ok_iff.2 ⟨held, rfl⟩
  refine ⟨_, recorded, ?_⟩
  cases b with
  | false =>
    cases h
    exact ⟨fun _ => rfl, fun _ => ⟨rfl, rfl, rfl, rfl⟩⟩
  | true =>
    cases h
    refine ⟨fun h => ?_, nofun⟩
    cases h.1

/-- A run whose `finalize` raised `PUBLISH_UNCERTAIN` is recorded as uncertain exactly when its
destination is Databricks. -/
theorem uncertain_commit_recorded_iff {env : WorkerEnv} {claimed : PipelineRun} {q : Transfer Unit}
    {c c' : Connector} {events : List (Program.Event Call.Answer Exn)} (lawful : env.lib.Lawful)
    (run : Runs (processOne env claimed) events q) (served : Served Connector.serve c events c')
    (raised : ⟨.finalize session, .error (.connector e)⟩ ∈ events)
    (uncertain : e.code = .publishUncertain) {a : PipelineRun.FailArgs}
    (next : q.head = some (.service (.failRun a))) {R : Redaction} {now : Time} {row : PipelineRun}
    {token : Token} (held : row.LeaseHeld now token) :
    ∃ row', row.failRun R now a (some token) = .ok row' ∧
      (row'.RecordsUncertainty ↔ c.isDatabricks = true) := by
  obtain ⟨before, after, rfl⟩ := List.append_of_mem raised
  obtain ⟨p₁, run₁, rest⟩ := run.split
  obtain ⟨c₁, served₁, served₂⟩ := served.split
  have sat := Sat.runs (processOne_sat lawful) run₁
  have kind : c₁.isDatabricks = c.isDatabricks := served₁.keeps Connector.isDatabricks_serve
  cases rest with
  | step rest =>
    obtain ⟨o, answer, served₃⟩ := served₂.first
    have start := Aftermath.start o sat.1 answer uncertain
    rw [answer] at start
    have left := (sat.2 _).served rest served₃ (fun o s t call => Aftermath.step o) start
    -- the failure that is recorded is the one the `except` block raised
    obtain ⟨-, records, -⟩ := ((sat.2 _).runs rest).allowed next
    obtain ⟨e', rethrown, rfl⟩ := records left.finalized
    obtain ⟨cause, raised', b, rolledBack, he'⟩ := rethrown left.finalized
    obtain rfl : .connector e = cause := Option.some.inj (left.raised.symm.trans raised')
    obtain ⟨row', recorded, iff⟩ := failRun_rethrown (R := R) held he'
    refine ⟨row', recorded, iff.trans ?_⟩
    rw [left.rolledBack b rolledBack, kind]
    cases c.isDatabricks <;> decide

end Run

/-! ## Two runs with an uncertain commit -/

/-- The sample route with a table of Databricks as its destination. -/
def WorkerEnv.sampleDatabricks : WorkerEnv :=
  { WorkerEnv.sample with
    parseSnapshot := fun _ => .ok { DefinitionSnapshot.sample with
      destinationProvider := "databricks"
      destination := .databricksTable {
        workspaceId := "1", catalog := "main", schemaName := "public", table := "copies" }
      writePolicy := ⟨.databricksCreate, [], List.nodup_nil⟩ } }

/-- Neither PostgreSQL nor Databricks confirms the commit. -/
def unconfirmed : Provider where
  answer := sampleAnswer
  postgres := { commit := some (.psycopg (some "08006")) }
  databricks := { statementRaises := true }

/-- The worker, up to the record of the failure. -/
def unconfirmedRun (env : WorkerEnv) (c : Connector) (calls : Nat) :
    List (Program.Event Call.Answer Exn) × Connector × Transfer Unit :=
  Program.playServed Connector.serve unconfirmed calls c (processOne env .sample)

/-- The failure that a worker is about to record. -/
def nextFailure (p : Transfer Unit) : Option PipelineRun.FailArgs :=
  match p.head with
  | some (.service (.failRun a)) => some a
  | _ => none

theorem head_of_nextFailure {p : Transfer Unit} {a : PipelineRun.FailArgs}
    (h : nextFailure p = some a) : p.head = some (.service (.failRun a)) := by
  unfold nextFailure at h
  split at h
  · cases h
    assumption
  · cases h

/-- `finalize` has raised `PUBLISH_UNCERTAIN`. -/
def raisesUncertain : Program.Event Call.Answer Exn → Bool
  | ⟨.finalize _, .error (.connector e)⟩ => decide (e.code = .publishUncertain)
  | _ => false

theorem exists_of_raisesUncertain {events : List (Program.Event Call.Answer Exn)}
    (h : events.any raisesUncertain = true) : ∃ session e,
      ⟨.finalize session, .error (.connector e)⟩ ∈ events ∧ e.code = .publishUncertain := by
  obtain ⟨event, mem, raises⟩ := List.any_eq_true.1 h
  unfold raisesUncertain at raises
  split at raises
  · exact ⟨_, _, mem, of_decide_eq_true raises⟩
  · cases raises

/-- The row of the run when its worker calls `finalize`. -/
def PipelineRun.verifyingSample : PipelineRun :=
  { PipelineRun.sample with status := .verifying, stage := .verify }

theorem verifyingSample_held :
    PipelineRun.verifyingSample.LeaseHeld 0 ⟨"token", by decide⟩ := by
  refine ⟨rfl, fun expires h => ?_⟩
  cases h
  decide

/-- PostgreSQL: the commit is uncertain, and the run is recorded as rolled back. -/
theorem uncertain_commit_rolled_back : ∃ events q c',
    Runs (processOne .sample .sample) events q ∧
    Served Connector.serve (.postgres false) events c' ∧
    (∃ session e, ⟨.finalize session, .error (.connector e)⟩ ∈ events ∧
      e.code = .publishUncertain) ∧
    ∃ a row', q.head = some (.service (.failRun a)) ∧
      PipelineRun.verifyingSample.failRun .trivial 0 a (some ⟨"token", by decide⟩) = .ok row' ∧
      row'.status = .failed ∧ row'.dataImpact = some .rolledBack ∧
      row'.reconciliationRequired = false := by
  refine ⟨_, _, _, Program.runs_playServed Connector.serve unconfirmed 45 (.postgres false) _,
    Program.served_playServed .., exists_of_raisesUncertain (by decide +kernel), ?_⟩
  have failure : ∃ a ∈ nextFailure (unconfirmedRun .sample (.postgres false) 45).2.2,
      a.dataImpact = some .rolledBack := by decide +kernel
  obtain ⟨a, ha, impact⟩ := failure
  refine ⟨a, _, head_of_nextFailure ha, PipelineRun.guarded_ok_iff.2 ⟨verifyingSample_held, rfl⟩, ?_⟩
  obtain ⟨code, summary, retryable, needs, dataImpact, facts⟩ := a
  cases impact
  exact ⟨rfl, rfl, rfl⟩

/-- Databricks: the run is recorded as uncertain. -/
theorem uncertain_commit_recorded_databricks :
    ∃ a ∈ nextFailure (unconfirmedRun .sampleDatabricks (.databricks fun _ => none) 45).2.2,
    ∃ row', PipelineRun.verifyingSample.failRun .trivial 0 a (some ⟨"token", by decide⟩) = .ok row' ∧
      row'.RecordsUncertainty := by
  obtain ⟨a, ha⟩ := Option.isSome_iff_exists.1 (by decide +kernel :
    (nextFailure (unconfirmedRun .sampleDatabricks (.databricks fun _ => none) 45).2.2).isSome)
  obtain ⟨session, e, raised, uncertain⟩ := exists_of_raisesUncertain (by decide +kernel :
    (unconfirmedRun .sampleDatabricks (.databricks fun _ => none) 45).1.any raisesUncertain)
  have lawful : WorkerEnv.sampleDatabricks.lib.Lawful := Library.sample_lawful
  obtain ⟨row', recorded, iff⟩ := uncertain_commit_recorded_iff lawful (Program.runs_playServed ..)
    (Program.served_playServed ..) raised uncertain (head_of_nextFailure ha) verifyingSample_held
  exact ⟨a, ha, row', recorded, iff.2 rfl⟩

end DataMover
