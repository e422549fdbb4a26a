import DataMover.Engine.Worker

/-!
# The protocol of a worker

`Progress` is what an observer of a worker's calls knows, and `Orderly` says which call may come next:
the destination is prepared once, for the planned schema, after the run has moved to `loading`; every
written batch is the image of the next extracted one; `finalize` comes after all of them; and the run
is ended in a way that does not hide a commit.  `processOne_sat` proves that every run of `process_one`
follows the protocol.
-/

namespace DataMover

open Program (lift attempt Sat)

/-! ## Scans -/

/-- The batch that is spooled for a batch: the same rows with the columns in another order. -/
structure Reordered (batch spooled : TransferBatch) : Prop where
  rowCount : spooled.rowCount = batch.rowCount
  byteCount : spooled.byteCount = batch.byteCount
  sequence : spooled.sequence = batch.sequence
  select : ∃ names, batch.frame.select names = .ok spooled.frame ∧ ∀ n ∈ batch.frame.names, n ∈ names

/-- What a completed scan knows of the batches it has seen. -/
structure Scanned (j : Job) (sourceSchema : ObjectSchema) (batches : List TransferBatch)
    (scan : ScanState) : Prop where
  spooled : ∃ spooled, scan.spool.Holds j.lib spooled ∧ List.Forall₂ Reordered batches spooled ∧
    scan.ssnCounts = scanCounts j.lib (metadataSensitiveColumns sourceSchema) spooled
  columns : batches ≠ [] → scan.columns = scan.schema.names

section Scans

variable {j : Job} {sourceSchema : ObjectSchema} {batches : List TransferBatch} {scan : ScanState}

theorem scanAll_concat (batch : TransferBatch) (h : scanAll j sourceSchema batches = .ok scan) :
    scanAll j sourceSchema (batches ++ [batch]) = scanData j sourceSchema scan batch := by
  unfold scanAll at h ⊢
  rw [List.foldlM_append, h]
  simp only [bind, Except.bind, List.foldlM_cons, List.foldlM_nil]
  cases scanData j sourceSchema scan batch <;> rfl

theorem selectColumns_eq (batch : TransferBatch) (columns : List String) :
    selectColumns batch columns =
      (fun frame => { batch with frame := frame }) <$> batch.frame.select columns := by
  unfold selectColumns
  split_ifs with same
  · rw [← same, Frame.select_names]
    rfl
  · rfl

theorem selectColumns_reordered {batch batch' : TransferBatch} {columns : List String}
    (h : selectColumns batch columns = .ok batch') (all : ∀ n ∈ batch.frame.names, n ∈ columns) :
    Reordered batch batch' := by
  rw [selectColumns_eq] at h
  obtain ⟨frame, hf, rfl⟩ := map_eq_ok.1 h
  exact ⟨rfl, rfl, rfl, columns, hf, all⟩

/-- A batch without drift has all columns of the schema, and no others. -/
theorem names_of_not_drifted {lib : Library} {schema : ObjectSchema} {frame : Frame}
    (h : drifted lib schema frame = false) :
    (∀ n ∈ frame.names, n ∈ schema.names) ∧ (∀ n ∈ schema.names, n ∈ frame.names) ∧
      frame.names.length = schema.names.length := by
  simp only [drifted, Bool.or_eq_false_iff, Bool.not_eq_false', Bool.and_eq_true,
    List.all_eq_true, decide_eq_true_eq] at h
  exact ⟨h.1.1.1, h.1.1.2, h.1.2⟩

theorem scanData_scanned (lawful : j.lib.Lawful) {scan' : ScanState} {batch : TransferBatch}
    (scanned : Scanned j sourceSchema batches scan)
    (h : scanData j sourceSchema scan batch = .ok scan') :
    Scanned j sourceSchema (batches ++ [batch]) scan' := by
  unfold scanData at h
  simp only at h
  split_ifs at h with _ drift
  obtain ⟨selected, hs, h⟩ := bind_eq_ok.1 h
  obtain ⟨spool, ha, h⟩ := bind_eq_ok.1 h
  cases h
  obtain ⟨spooled, holds, reordered, counts⟩ := scanned.spooled
  have names := names_of_not_drifted (Bool.eq_false_iff.2 drift)
  refine ⟨⟨spooled ++ [selected], holds.append lawful ha, ?_, ?_⟩, fun _ => rfl⟩
  · exact List.rel_append reordered (.cons (selectColumns_reordered hs names.1) .nil)
  · rw [scanCounts_append, ← counts]
    rfl

/-- What `scanAll` computes. -/
theorem scanned_of_scanAll (lawful : j.lib.Lawful) (h : scanAll j sourceSchema batches = .ok scan) :
    Scanned j sourceSchema batches scan := by
  induction batches using List.reverseRecOn generalizing scan with
  | nil =>
    cases h
    exact ⟨⟨[], Spool.holds_nil j.lib _ _, .nil, rfl⟩, fun hn => absurd rfl hn⟩
  | append_singleton rest batch ih =>
    unfold scanAll at h
    rw [List.foldlM_append] at h
    obtain ⟨before, hb, h⟩ := bind_eq_ok.1 h
    have data : scanData j sourceSchema before batch = .ok scan := by
      rw [← scanAll_concat batch hb]
      unfold scanAll
      rw [List.foldlM_append, hb]
      exact h
    exact scanData_scanned lawful (ih hb) data

/-- Selecting from a spooled batch is selecting from the extracted one. -/
theorem Reordered.selectColumns_eq {batch spooled : TransferBatch} (h : Reordered batch spooled)
    {columns : List String} (same : namesDrifted columns spooled.frame = false) :
    selectColumns spooled columns = selectColumns batch columns := by
  obtain ⟨names, hs, -⟩ := h.select
  obtain ⟨hn, -, -⟩ := Frame.select_eq_ok hs
  simp only [namesDrifted, Bool.not_eq_false', Bool.and_eq_true, List.all_eq_true,
    decide_eq_true_eq] at same
  rw [DataMover.selectColumns_eq, DataMover.selectColumns_eq,
    Frame.select_select hs fun n hc => hn ▸ same.2 n hc]
  have rest (frame : Frame) : { spooled with frame := frame } = { batch with frame := frame } := by
    cases spooled
    cases batch
    simp only [TransferBatch.mk.injEq]
    exact ⟨trivial, h.rowCount, h.byteCount, h.sequence⟩
  simp only [rest]

/-- What is written for a spooled batch is what is written for the extracted one. -/
theorem Reordered.writtenBatch_eq {batch spooled : TransferBatch} (h : Reordered batch spooled)
    {lib : Library} {columns : List String} {overrides : List (String × ColumnType)}
    {effective : List (String × ActionName)} {hmacKey : Bytes}
    (same : namesDrifted columns spooled.frame = false) :
    writtenBatch lib columns overrides effective hmacKey spooled =
      writtenBatch lib columns overrides effective hmacKey batch := by
  unfold writtenBatch
  rw [h.selectColumns_eq same]

end Scans

/-! ## Plans -/

/-- The effective actions of a scan. -/
def scanEffective (j : Job) (sourceSchema : ObjectSchema) (scan : ScanState) :
    List (String × ActionName) :=
  effectiveActions (scanFindings j.snapshot.guardrailActions sourceSchema scan.schema scan.ssnCounts)
    j.snapshot.guardrailActions

/-- The plan was made from the complete scan of these batches, and is not blocked. -/
structure Planned (j : Job) (sourceSchema : ObjectSchema) (batches : List TransferBatch)
    (plan : Plan) : Prop where
  scan : scanAll j sourceSchema batches = .ok plan.scan
  decision : ∃ destinationSchema, plan.decision =
    guardrailDecision j.snapshot sourceSchema plan.scan.schema plan.scan.ssnCounts destinationSchema
  unblocked : plan.decision.blockedReason = ""
  schema : destinationSchemaFor j plan.scan.schema plan.decision.effective = .ok plan.schema

theorem Planned.effective_eq {j : Job} {sourceSchema : ObjectSchema} {batches : List TransferBatch}
    {plan : Plan} (h : Planned j sourceSchema batches plan) :
    plan.decision.effective = scanEffective j sourceSchema plan.scan := by
  obtain ⟨destinationSchema, hd⟩ := h.decision
  rw [hd]
  rfl

/-- The batch that a plan writes for an extracted batch. -/
def Writes (j : Job) (plan : Plan) (hmacKey : Bytes) (batch written : TransferBatch) : Prop :=
  writtenBatch j.lib plan.scan.columns j.snapshot.writePolicy.columnTypeOverrides
    plan.decision.effective hmacKey batch = .ok written

/-- The written column is null where that of the batch is, and holds the digests of its cells, as they
are after the casts. -/
def HashedColumn (lib : Library) (columns : List String) (overrides : List (String × ColumnType))
    (hmacKey : Bytes) (batch : TransferBatch) (name : String) (written : List Cell) : Prop :=
  ∃ selected cast source values, selectColumns batch columns = .ok selected ∧
    castBatchColumns lib selected overrides = .ok cast ∧
    batch.frame.column? name = some source ∧ cast.frame.column? name = some values ∧
    SameNulls source.values written ∧
    List.Forall₂ (HashedCell lib hmacKey name) values.values written

/-- What `writtenBatch` keeps of a batch, and what it does to its columns. -/
structure Image (lib : Library) (columns : List String) (overrides : List (String × ColumnType))
    (effective : List (String × ActionName)) (hmacKey : Bytes) (batch written : TransferBatch) :
    Prop where
  rowCount : written.rowCount = batch.rowCount
  sequence : written.sequence = batch.sequence
  names : written.frame.names = columns.filter (· ∉ columnsWith effective .remove)
  hashed : ∀ n ∈ columnsWith effective .hash, ∀ s, written.frame.column? n = some s →
    HashedColumn lib columns overrides hmacKey batch n s.values

/-- Hashing makes no nulls and keeps them. -/
theorem sameNulls_of_hashed {lib : Library} {hmacKey : Bytes} {name : String}
    {values hashed : List Cell} (h : List.Forall₂ (HashedCell lib hmacKey name) values hashed) :
    SameNulls values hashed := by
  refine h.imp fun value written cell => ⟨cell.null, fun none => ?_⟩
  by_contra filled
  obtain ⟨digest, text, -⟩ := cell.digest filled
  rw [none] at text
  cases text

theorem writtenBatch_image {lib : Library} (lawful : lib.Lawful) {columns : List String}
    {overrides : List (String × ColumnType)} {effective : List (String × ActionName)}
    (nodup : (effective.map Prod.fst).Nodup) {hmacKey : Bytes} {batch written : TransferBatch}
    (h : writtenBatch lib columns overrides effective hmacKey batch = .ok written) :
    Image lib columns overrides effective hmacKey batch written := by
  unfold writtenBatch at h
  obtain ⟨selected, hs, h⟩ := bind_eq_ok.1 h
  obtain ⟨cast, hc, ht⟩ := bind_eq_ok.1 h
  rw [selectColumns_eq] at hs
  obtain ⟨frame, hf, rfl⟩ := map_eq_ok.1 hs
  obtain ⟨selectedNames, -, same⟩ := Frame.select_eq_ok hf
  have keeps := castBatchColumns_keeps lawful hc
  have transforms := transformBatchForGuardrails_transforms lawful nodup ht
  have castNames : cast.frame.names = columns := keeps.names.trans selectedNames
  refine ⟨transforms.rowCount.trans keeps.rowCount, transforms.sequence.trans keeps.sequence,
    by rw [transforms.names, castNames], fun n hn s hsn => ?_⟩
  -- the hashed column is one of the selected ones, and the cast keeps its nulls
  have inColumns : n ∈ columns := by
    have inWritten : n ∈ written.frame.names := by
      obtain ⟨mem, name⟩ := Frame.column?_eq_some_iff.1 hsn
      exact name ▸ Frame.mem_names mem
    rw [transforms.names, castNames] at inWritten
    exact List.mem_of_mem_filter inWritten
  obtain ⟨source, hsource⟩ := Frame.exists_column? (selectedNames.symm ▸ inColumns : n ∈ frame.names)
  obtain ⟨middle, hm, nulls⟩ := keeps.nulls n source hsource
  obtain ⟨final, hfinal, digests⟩ := transforms.hashed n hn middle hm
  obtain rfl : final = s := Option.some.inj (hfinal.symm.trans hsn)
  exact ⟨_, cast, source, middle, by rw [selectColumns_eq, hf, Except.map_ok], hc,
    (same n inColumns).symm.trans hsource, hm, nulls.trans (sameNulls_of_hashed digests), digests⟩

theorem Planned.nodup {j : Job} {sourceSchema : ObjectSchema} {batches : List TransferBatch}
    {plan : Plan} (h : Planned j sourceSchema batches plan) :
    (plan.decision.effective.map Prod.fst).Nodup := by
  rw [h.effective_eq]
  exact nodup_effectiveActions

/-- The number of rows of some batches. -/
def rowTotal (batches : List TransferBatch) : Nat := (batches.map TransferBatch.rowCount).sum

/-- The verification was computed by `_reconcile_write_result` for this number of source rows. -/
def Reconciled (j : Job) (sourceRows : Nat) (verification : Document) : Prop :=
  ∃ manifest before after capabilities level error facts st,
    reconcileWriteResult j.lib j.snapshot.writePolicy sourceRows manifest before after capabilities =
      (level, error, facts) ∧
    verification = verificationOf level facts st manifest

/-! ## Progress -/

/-- Whether `finalize` has been called, and how it ended. -/
inductive Finalize where
  | pending
  | raised
  | returned
  deriving DecidableEq

/-- What the calls of a worker have shown so far. -/
structure Progress where
  /-- The first schema that the source returned. -/
  inspected : Option ObjectSchema := none
  /-- What the source yields. -/
  extraction : Option Spool.Yield := none
  /-- The source has been closed. -/
  closed : Bool := false
  /-- After that, no cancellation was requested. -/
  checked : Bool := false
  /-- `block_run` returned. -/
  blocked : Bool := false
  /-- The transition to `loading` returned. -/
  loading : Bool := false
  /-- The schemas that `prepare_destination` was called with. -/
  prepared : List ObjectSchema := []
  /-- The session that it returned. -/
  session : Option LoadSession := none
  /-- The batches that `write_batch` was called with. -/
  written : List TransferBatch := []
  /-- The source rows counted so far, until a call of `add_counters` raises. -/
  counted : Option Nat := some 0
  /-- The transition to `verifying` returned. -/
  verifying : Bool := false
  finalized : Finalize := .pending
  /-- What `finalize` raised. -/
  raised : Option Exn := none
  /-- Whether the last `abort` confirmed the rollback. -/
  rolledBack : Option Bool := none
  /-- The worker has tried to end the run. -/
  ending : Bool := false

namespace Progress

/-- What one call shows. -/
def observe (p : Progress) : (c : Call) → Except Exn c.Answer → Progress
  | .inspectSource, .ok schema => { p with inspected := p.inspected.or (some schema) }
  | .extract _ _, .ok source => { p with extraction := some source }
  | .closeSource, .ok _ => { p with closed := true }
  | .cancelRequested, .ok cancelled => { p with checked := p.checked || (p.closed && !cancelled) }
  | .service (.transition .loading _), .ok _ => { p with loading := true }
  | .service (.transition .verifying _), .ok _ => { p with verifying := true }
  | .service (.addCounters c), .ok _ => { p with counted := p.counted.map (· + c.sourceRows.getD 0) }
  | .service (.addCounters _), .error _ => { p with counted := none }
  | .service (.blockRun _ _), .ok _ => { p with blocked := true, ending := true }
  | .service (.blockRun _ _), .error _ => { p with ending := true }
  | .service (.blockComputeReadiness _), _ => { p with ending := true }
  | .service (.completeRun _), _ => { p with ending := true }
  | .service (.failRun _), _ => { p with ending := true }
  | .service (.cancelClaimedRun _), _ => { p with ending := true }
  | .deferRunForDatabricksCompute _, _ => { p with ending := true }
  | .prepareDestination schema _ _, .ok session =>
    { p with prepared := p.prepared ++ [schema], session := some session }
  | .prepareDestination schema _ _, .error _ => { p with prepared := p.prepared ++ [schema] }
  | .writeBatch _ batch, _ => { p with written := p.written ++ [batch] }
  | .finalize _, .ok _ => { p with finalized := .returned }
  | .finalize _, .error e => { p with finalized := .raised, raised := some e }
  | .abort _, .ok result => { p with rolledBack := some (decide (result = .rolledBack)) }
  | .abort _, .error _ => { p with rolledBack := some false }
  | _, _ => p

/-- The source that the worker has inspected and read to its end. -/
structure Source (p : Progress) (sourceSchema : ObjectSchema) (batches : List TransferBatch) :
    Prop where
  inspected : p.inspected = some sourceSchema
  extraction : p.extraction = some { batches }

/-- Nothing can have been committed: `finalize` was not called, or it raised and the connector
confirmed the rollback. -/
def Clean (p : Progress) : Prop :=
  p.finalized = .pending ∨ p.finalized = .raised ∧ p.rolledBack = some true

end Progress

/-- The failure is recorded as uncertain. -/
def UncertainFailure (a : PipelineRun.FailArgs) : Prop :=
  a.dataImpact = none ∧ (a.needsReconciliation = true ∨ a.code = .known .publishUncertain)

/-- What the `except` block raises for an exception of `finalize`, after the answer of `abort`. -/
def rethrown (exc : Exn) (rolledBack : Bool) : Exn :=
  match exc, rolledBack with
  | .runConflict message, _ => .runConflict message
  | _, false => publishUncertain
      "Destination cleanup could not be confirmed after the transfer failed."
  | .connector e, true => .connector { e with dataImpact := some .rolledBack }
  | _, true => .connector {
      code := .internalError, retryable := false, dataImpact := some .rolledBack
      summary := "The transfer failed after the destination changes were rolled back." }

/-- The exception is the one that the `except` block raises when `finalize` has raised. -/
def Rethrown (p : Progress) (exc : Exn) : Prop :=
  p.finalized = .raised → ∃ cause ∈ p.raised, ∃ b, p.rolledBack = some b ∧ exc = rethrown cause b

/-- The failure that is recorded when `finalize` has raised. -/
def RecordsCause (p : Progress) (a : PipelineRun.FailArgs) : Prop :=
  p.finalized = .raised → ∃ e, Rethrown p (.connector e) ∧ a = connectorFailure e

/-- The written batches are the images of the first extracted ones. -/
def Loads (j : Job) (p : Progress) (batches written : List TransferBatch) : Prop :=
  ∃ sourceSchema plan hmacKey, p.Source sourceSchema batches ∧ Planned j sourceSchema batches plan ∧
    p.prepared = [plan.schema] ∧ guardrailHmacKey j plan = .ok hmacKey ∧
    List.Forall₂ (Writes j plan hmacKey) (batches.take written.length) written

/-- The verification of a finalized transfer accounts for the rows of all extracted batches, which
have been counted. -/
def Accounts (j : Job) (p : Progress) (verification : Document) : Prop :=
  p.finalized = .returned ∧ ∃ sourceSchema batches, p.Source sourceSchema batches ∧
    p.counted = some (rowTotal batches) ∧ Reconciled j (rowTotal batches) verification

/-- The calls of the run service that a worker may make. -/
def OrderlyService (job : Option Job) (p : Progress) : WorkerCall → Prop
  | .heartbeat _ | .recordGuardrailReview _ => True
  | .transition s _ => p.finalized = .pending ∧ p.ending = false ∧
      (s = .extracting ∨ s = .loading ∧ p.loading = false ∨ s = .verifying ∧ p.loading = true)
  | .addCounters _ => p.loading = true ∧ p.finalized = .pending
  | .blockRun _ _ | .cancelClaimedRun _ => p.finalized = .pending
  | .blockComputeReadiness _ => p.Clean
  | .failRun a => (p.Clean ∨ UncertainFailure a) ∧ RecordsCause p a ∧
      ∀ facts ∈ a.verificationFacts, ∃ j ∈ job, Accounts j p facts
  | .completeRun a => p.finalized = .returned ∧ ∃ j ∈ job, Accounts j p a.verification
  | .requestComputeStart .. | .deferRunForDatabricksCompute .. | .renewLease _ => False

/-- The calls that a worker may make. -/
def Orderly (job : Option Job) (p : Progress) : Call → Prop
  | .service call => OrderlyService job p call
  | .deferRunForDatabricksCompute _ => p.Clean
  | .prepareDestination schema _ _ => p.loading = true ∧ p.prepared = [] ∧
      ∃ j ∈ job, ∃ sourceSchema batches plan, p.Source sourceSchema batches ∧
        Planned j sourceSchema batches plan ∧ plan.schema = schema
  | .writeBatch session batch => p.session = some session ∧ p.finalized = .pending ∧
      ∃ j ∈ job, ∃ batches, Loads j p batches (p.written ++ [batch])
  | .finalize session => p.session = some session ∧ p.verifying = true ∧ p.finalized = .pending ∧
      p.ending = false ∧ p.rolledBack = none ∧ ∃ j ∈ job, ∃ batches, Loads j p batches p.written ∧
        p.written.length = batches.length ∧ p.counted = some (rowTotal batches)
  | .abort session => p.session = some session
  | _ => True

/-- The decision on a scan, for a schema of the destination. -/
def scanDecision (j : Job) (sourceSchema : ObjectSchema) (scan : ScanState)
    (destinationSchema : Option ObjectSchema) : Decision :=
  guardrailDecision j.snapshot sourceSchema scan.schema scan.ssnCounts destinationSchema

/-- The scan is complete, the lease was held and no cancellation requested, and the guardrails block the
run whatever the schema of the destination is; the run is not blocked yet. -/
structure Unresolved (j : Job) (p : Progress) : Prop where
  checked : p.checked = true
  unblocked : p.blocked = false
  decided : ∃ sourceSchema batches scan, p.Source sourceSchema batches ∧
    scanAll j sourceSchema batches = .ok scan ∧
    ∀ destinationSchema, (scanDecision j sourceSchema scan destinationSchema).blockedReason ≠ ""

/-- The calls that are left to `execute_transfer` in that state. -/
inductive Blocks (j : Job) (p : Progress) : Call → Prop
  | inspect : Blocks j p .inspectSource
  | block {sourceSchema : ObjectSchema} {batches : List TransferBatch} {scan : ScanState}
      (destinationSchema : Option ObjectSchema) (source : p.Source sourceSchema batches)
      (complete : scanAll j sourceSchema batches = .ok scan) :
      Blocks j p (.service (.blockRun
        (blockedSummary (scanDecision j sourceSchema scan destinationSchema))
        ((scanDecision j sourceSchema scan destinationSchema).document scan.scannedRows
          scan.scannedBytes)))

/-- The protocol of `execute_transfer`. -/
def transferProtocol (j : Job) : Protocol Call.Answer Exn Progress where
  Allowed p c := Orderly (some j) p c ∧ (Unresolved j p → Blocks j p c)
  observe := Progress.observe

/-- The protocol of a worker with this job. -/
def workerProtocol (job : Option Job) : Protocol Call.Answer Exn Progress where
  Allowed := Orderly job
  observe := Progress.observe

end DataMover
