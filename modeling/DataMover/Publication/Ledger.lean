import DataMover.Runs.State

/-!
# The publication ledger

`databricks_publication.py`: the durable record of one Databricks publication, which is also the fence
of its target table.  `recordPublicationEvent` is what the worker calls around every write side effect;
the `Recovery` functions are the transactions of one pass of
`process_pending_publication_recovery`.
-/

namespace DataMover

/-- States of a `DatabricksPublication`. -/
inductive PublicationState where
  | preparing
  | staging
  | publishing
  | committed
  | uncertain
  | cleanupPending
  | cleanupRequired
  | complete
  | unchanged
  deriving DecidableEq, Repr

/-- The states that a recovery pass looks for. -/
def PublicationState.recoverable : List PublicationState :=
  [.preparing, .staging, .committed, .cleanupPending, .publishing, .uncertain]

/-- The states in which the outcome of a submitted statement has to be looked up. -/
def PublicationState.submittedStates : List PublicationState := [.publishing, .uncertain]

/-- A row of `databricks_publications`. -/
structure Publication where
  runId : String
  userId : String
  workspaceId : String
  connectionGeneration : String
  targetKey : String
  activeTargetKey : Option String
  targetLocatorJson : String
  writeMode : String
  stagingName : String
  state : PublicationState := .preparing
  submissionId : String
  stagedRows : Nat := 0
  stagedBytes : Nat := 0
  submittedAt : Option Time := none
  confirmedAt : Option Time := none
  cleanupUpdatedAt : Option Time := none
  recoveryToken : Option String := none
  recoveryExpiresAt : Option Time := none
  lastErrorCode : Option String := none
  lastErrorSummary : String := ""
  deriving DecidableEq

/-- The columns of `pipeline_runs` that the ledger reads. -/
structure RunLease where
  userId : String
  status : PipelineRunStatus
  leaseToken : Option String
  leaseExpiresAt : Option Time
  deriving DecidableEq

/-- The arguments that the worker of a run passes with every event; `targetKey` is
`_target_key(locator)`. -/
structure PublicationWriter where
  leaseToken : String
  userId : String
  workspaceId : String
  targetKey : String
  locatorJson : String
  connectionGeneration : String
  writeMode : String
  stagingName : String
  deriving DecidableEq

inductive PublicationEvent where
  | prepareStarted
  | stagingReady
  | batchWritten (rows bytes : Nat)
  | publishSubmitted
  | committed
  | publishUncertain (error : Option ConnectorError)
  | cleanupPending
  | cleanupConfirmed
  | abortConfirmed
  | abortUncertain (error : Option ConnectorError)
  deriving DecidableEq

namespace Publication

/-- The record that `prepare_started` inserts. -/
def prepared (runId : String) (w : PublicationWriter) : Publication where
  runId := runId
  userId := w.userId
  workspaceId := w.workspaceId
  connectionGeneration := w.connectionGeneration
  targetKey := w.targetKey
  activeTargetKey := some w.targetKey
  targetLocatorJson := w.locatorJson
  writeMode := clip 24 w.writeMode
  stagingName := clip 520 w.stagingName
  submissionId := runId

/-- `str(error.code)[:64] if error else default`. -/
def errorCodeOr (error : Option ConnectorError) (default : String) : Option String :=
  some ((error.map fun e => clip 64 e.code.value).getD default)

/-- `error.summary[:240] if error else default`. -/
def errorSummaryOr (error : Option ConnectorError) (default : String) : String :=
  (error.map fun e => clip 240 e.summary).getD default

/-- What an event writes into the record of its run; `prepare_started` inserts one instead. -/
def apply (now : Time) (w : PublicationWriter) (record : Publication) :
    PublicationEvent → Except Exn Publication
  | .prepareStarted => .error (.connector {
      code := .workerLost
      summary :=
        "A prior Databricks publication record exists for this run. Recover it before retrying."
      retryable := false })
  | .stagingReady => .ok { record with state := .staging }
  | .batchWritten rows bytes => .ok { record with
      stagedRows := max record.stagedRows rows
      stagedBytes := max record.stagedBytes bytes }
  | .publishSubmitted => .ok { record with
      state := .publishing
      submissionId := record.runId
      submittedAt := some now }
  | .committed => .ok { record with
      state := .committed
      activeTargetKey := none
      confirmedAt := some now }
  | .publishUncertain error => .ok { record with
      state := .uncertain
      activeTargetKey := some w.targetKey
      lastErrorCode := errorCodeOr error "publish_uncertain"
      lastErrorSummary := errorSummaryOr error
        "The Databricks publication outcome could not be confirmed." }
  | .cleanupPending => .ok { record with
      state := .cleanupPending
      activeTargetKey :=
        if record.confirmedAt.isNone then some w.targetKey else record.activeTargetKey
      cleanupUpdatedAt := some now }
  | .cleanupConfirmed => .ok { record with
      state := if record.confirmedAt.isSome then .complete else .unchanged
      activeTargetKey := none
      cleanupUpdatedAt := some now
      recoveryToken := none
      recoveryExpiresAt := none }
  | .abortConfirmed =>
    if record.submittedAt.isSome then
      .error (.connector {
        code := .publishUncertain
        summary := "Publication was already submitted; cleanup cannot establish that the " ++
          "destination is unchanged."
        retryable := false })
    else .ok { record with
      state := .unchanged
      activeTargetKey := none
      cleanupUpdatedAt := some now }
  | .abortUncertain error => .ok { record with
      state := if record.submittedAt.isSome then .uncertain else .cleanupPending
      activeTargetKey := some w.targetKey
      cleanupUpdatedAt := some now
      lastErrorCode := errorCodeOr error "cleanup_uncertain"
      lastErrorSummary := errorSummaryOr error
        "Databricks staging cleanup could not be confirmed." }

/-- `_defer_recovery`. -/
def deferRecovery (now : Time) (errorCode summary : String) (delaySeconds : Int)
    (state : Option PublicationState) (record : Publication) : Publication :=
  { record with
    state := state.getD record.state
    lastErrorCode := some (clip 64 errorCode)
    lastErrorSummary := clip 240 summary
    cleanupUpdatedAt := some now
    recoveryToken := none
    recoveryExpiresAt := some (now + seconds (max 1 delaySeconds)) }

/-- The claim of a recovery pass. -/
def claimRecovery (now : Time) (token : String) (record : Publication) : Publication :=
  { record with recoveryToken := some token, recoveryExpiresAt := some (now + seconds 60) }

/-- The confirmation of a commit that the provider has recorded. -/
def confirmCommit (now : Time) (submissionId : String) (record : Publication) : Publication :=
  { record with
    state := .cleanupPending
    activeTargetKey := none
    confirmedAt := some now
    submissionId := submissionId }

/-- The last write of a pass, after the staging table is gone. -/
def finishRecovery (now : Time) (record : Publication) : Publication :=
  { record with
    state := if record.confirmedAt.isSome then .complete else .unchanged
    activeTargetKey := none
    cleanupUpdatedAt := some now
    recoveryToken := none
    recoveryExpiresAt := none
    lastErrorCode := none
    lastErrorSummary := "" }

/-- The conditions of the candidate query on the record and on its run. -/
def RecoveryCandidate (now : Time) (run : RunLease) (record : Publication) : Prop :=
  record.state ∈ PublicationState.recoverable ∧
  (∀ expires ∈ record.recoveryExpiresAt, expires ≤ now) ∧
  (run.status ∈ PipelineRunStatus.terminalStatuses ∨ ∀ expires ∈ run.leaseExpiresAt, expires ≤ now)

instance (now : Time) (run : RunLease) (record : Publication) :
    Decidable (record.RecoveryCandidate now run) :=
  inferInstanceAs (Decidable (_ ∧ _ ∧ _))

end Publication

/-! ## The table -/

/-- `databricks_publications`, with its primary key and `uq_databricks_publications_active_target`. -/
structure PublicationTable where
  records : List Publication
  primaryKey : (records.map Publication.runId).Nodup
  activeTarget : ∀ a ∈ records, ∀ b ∈ records, ∀ key, a.activeTargetKey = some key →
    b.activeTargetKey = some key → a.runId = b.runId

namespace PublicationTable

/-- The table without rows. -/
def empty : PublicationTable := ⟨[], by simp, by simp⟩

/-- `db.get(DatabricksPublication, run_id)`. -/
def get (t : PublicationTable) (runId : String) : Option Publication :=
  t.records.find? fun r => r.runId = runId

/-- Another run holds the target that `record` claims. -/
def conflicts (t : PublicationTable) (record : Publication) : Bool :=
  record.activeTargetKey.any fun key =>
    t.records.any fun r => decide (r.runId ≠ record.runId) && decide (r.activeTargetKey = some key)

theorem not_conflicts_iff {t : PublicationTable} {record : Publication} :
    t.conflicts record = false ↔ ∀ r ∈ t.records, ∀ key, record.activeTargetKey = some key →
      r.activeTargetKey = some key → r.runId = record.runId := by
  unfold conflicts
  rcases record.activeTargetKey with _ | key
  · simp
  · simp only [Option.any_some, List.any_eq_false, Bool.and_eq_true, decide_eq_true_eq, not_and,
      Option.some.injEq]
    constructor
    · rintro h r hr _ rfl hk
      exact not_not.1 fun hne => h r hr hne hk
    · exact fun h r hr hne hk => hne (h r hr key rfl hk)

theorem map_runId_replace (records : List Publication) (record : Publication) :
    (records.map fun r => if r.runId = record.runId then record else r).map Publication.runId =
      records.map Publication.runId := by
  rw [List.map_map]
  refine List.map_congr_left fun r _ => ?_
  by_cases h : r.runId = record.runId
  · simp [h]
  · simp [h]

/-- Write a record back by its primary key. -/
def put (t : PublicationTable) (record : Publication) (free : t.conflicts record = false) :
    PublicationTable where
  records := t.records.map fun r => if r.runId = record.runId then record else r
  primaryKey := by rw [map_runId_replace]; exact t.primaryKey
  activeTarget := by
    have free := not_conflicts_iff.1 free
    intro a ha b hb key hka hkb
    simp only [List.mem_map] at ha hb
    obtain ⟨a, ha, rfl⟩ := ha
    obtain ⟨b, hb, rfl⟩ := hb
    split_ifs at hka hkb ⊢ with h₁ h₂ h₂
    · rfl
    · exact (free b hb key hka hkb).symm
    · exact free a ha key hkb hka
    · exact t.activeTarget a ha b hb key hka hkb

/-- Insert the record of a run that has none. -/
def insert (t : PublicationTable) (record : Publication) (fresh : t.get record.runId = none)
    (free : t.conflicts record = false) : PublicationTable where
  records := t.records ++ [record]
  primaryKey := by
    rw [List.map_append, List.nodup_append]
    refine ⟨t.primaryKey, List.pairwise_singleton _ _, ?_⟩
    rintro id hid _ hr rfl
    rw [List.map_singleton, List.mem_singleton] at hr
    obtain ⟨r, hmem, hrid⟩ := List.mem_map.1 hid
    have absent := List.find?_eq_none.1 fresh r hmem
    simp [hrid, hr] at absent
  activeTarget := by
    have free := not_conflicts_iff.1 free
    intro a ha b hb key hka hkb
    rcases List.mem_append.1 ha with ha | ha <;> rcases List.mem_append.1 hb with hb | hb
    · exact t.activeTarget a ha b hb key hka hkb
    · rw [List.mem_singleton.1 hb] at hkb ⊢
      exact free a ha key hkb hka
    · rw [List.mem_singleton.1 ha] at hka ⊢
      exact (free b hb key hka hkb).symm
    · rw [List.mem_singleton.1 ha, List.mem_singleton.1 hb]

/-- Commit a changed record; the unique target makes it fail as a whole. -/
def commit (t : PublicationTable) (record : Publication) : Except Exn PublicationTable :=
  if h : t.conflicts record = false then .ok (t.put record h)
  else .error (.other "IntegrityError")

end PublicationTable

/-- `_require_run_lease`: the token is compared, its expiry is not. -/
def requireRunLease (run : Option RunLease) (w : PublicationWriter) : Except Exn Unit :=
  match run with
  | some r =>
    if r.userId ≠ w.userId ∨ r.leaseToken ≠ some w.leaseToken then .error lost else .ok ()
  | none => .error lost
where
  lost : Exn := .connector {
    code := .workerLost
    summary := "This worker no longer holds the Databricks publication lease."
    retryable := false }

/-- `record_publication_event`. -/
def recordPublicationEvent (now : Time) (t : PublicationTable) (run : Option RunLease)
    (runId : String) (w : PublicationWriter) (event : PublicationEvent) :
    Except Exn PublicationTable := do
  requireRunLease run w
  match h : t.get runId with
  | none =>
    if event ≠ .prepareStarted then .error missing
    else if free : t.conflicts (.prepared runId w) = false then
      .ok (t.insert (.prepared runId w) h free)
    else .error (.connector {
      code := .destinationConflict
      summary := "Another Data Mover run is publishing to this Databricks table. " ++
        "Retry after it finishes."
      retryable := true })
  | some record =>
    if event ≠ .prepareStarted ∧ record.targetKey ≠ w.targetKey then .error missing
    else if event ≠ .prepareStarted ∧ (record.userId ≠ w.userId ∨
        record.connectionGeneration ≠ w.connectionGeneration) then
      .error (.connector {
        code := .credentialsStale
        summary := "The Databricks connection changed during publication. " ++
          "Reconcile this run before retrying."
        retryable := false })
    else do
      let record ← record.apply now w event
      t.commit record
where
  missing : Exn := .connector {
    code := .workerLost
    summary := "The durable Databricks publication record is missing or does not match this target."
    retryable := false }

/-! ## What the ledger writes -/

namespace PublicationTable

variable {t t' : PublicationTable} {r record : Publication}

theorem mem_of_get {runId : String} (h : t.get runId = some r) : r ∈ t.records ∧ r.runId = runId :=
  ⟨List.mem_of_find?_eq_some h, by simpa using List.find?_some h⟩

theorem eq_of_runId_eq {a b : Publication} (ha : a ∈ t.records) (hb : b ∈ t.records)
    (h : a.runId = b.runId) : a = b :=
  List.inj_on_of_nodup_map t.primaryKey ha hb h

/-- A commit replaces one record. -/
theorem mem_of_commit (h : t.commit record = .ok t') (hr : r ∈ t'.records) :
    r = record ∨ r ∈ t.records ∧ r.runId ≠ record.runId := by
  unfold commit at h
  split_ifs at h
  cases h
  simp only [put, List.mem_map] at hr
  obtain ⟨r₀, h₀, rfl⟩ := hr
  by_cases hid : r₀.runId = record.runId
  · exact .inl (if_pos hid)
  · rw [if_neg hid]
    exact .inr ⟨h₀, hid⟩

end PublicationTable

/-- An event writes the record it read. -/
theorem Publication.apply_runId {now : Time} {w : PublicationWriter} {r r' : Publication}
    {event : PublicationEvent} (h : r.apply now w event = .ok r') : r'.runId = r.runId := by
  cases event with
  | prepareStarted => cases h
  | abortConfirmed =>
    simp only [apply] at h
    split_ifs at h
    cases h
    rfl
  | _ =>
    cases h
    rfl

/-- Everything that an event can do to the table: insert the first record of a run whose target is
free, or change the record of the run. -/
theorem recordPublicationEvent_ok {now : Time} {t t' : PublicationTable} {run : Option RunLease}
    {runId : String} {w : PublicationWriter} {event : PublicationEvent}
    (h : recordPublicationEvent now t run runId w event = .ok t') :
    (event = .prepareStarted ∧ t.get runId = none ∧ t.conflicts (.prepared runId w) = false ∧
      t'.records = t.records ++ [.prepared runId w]) ∨
    ∃ r r', t.get runId = some r ∧ r.targetKey = w.targetKey ∧ r.apply now w event = .ok r' ∧
      t.commit r' = .ok t' := by
  unfold recordPublicationEvent at h
  obtain ⟨-, -, h⟩ := bind_eq_ok.1 h
  split at h
  · rename_i absent
    split_ifs at h with first free
    cases h
    exact .inl ⟨not_not.1 first, absent, free, rfl⟩
  · rename_i record hget
    split_ifs at h with hkey hconn
    obtain ⟨r', hr', h⟩ := bind_eq_ok.1 h
    have notFirst : event ≠ .prepareStarted := by
      rintro rfl
      cases hr'
    have sameKey : record.targetKey = w.targetKey := not_not.1 fun hne => hkey ⟨notFirst, hne⟩
    exact .inr ⟨record, r', hget, sameKey, hr', h⟩

end DataMover
