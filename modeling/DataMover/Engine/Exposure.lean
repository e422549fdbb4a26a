import DataMover.Engine.Conformance

/-!
# What reaches the destination

In every run of `execute_transfer`, the destination is opened and written only when every flagged
column has an effective action, and what is written shows nothing of it: removed columns are gone, and
hashed columns hold digests.  When a flagged column has no action, the run is blocked.
-/

namespace DataMover

open Program (Sat Runs)

variable {j : Job} {sourceSchema : ObjectSchema} {batches : List TransferBatch}

/-! ## Plans -/

/-- Every flagged column has an effective action. -/
theorem Planned.lookup_scanEffective {plan : Plan} (lawful : j.lib.Lawful)
    (h : Planned j sourceSchema batches plan) {column : String}
    (flagged : Flagged j.lib sourceSchema batches column) :
    ∃ action, (scanEffective j sourceSchema plan.scan).lookup column = some action := by
  obtain ⟨destinationSchema, decision⟩ := h.decision
  have unblocked := (congrArg Decision.blockedReason decision).symm.trans h.unblocked
  exact lookup_of_flagged lawful h.scan unblocked flagged

/-- The destination is prepared for the columns of the scan that are not removed. -/
theorem Planned.schema_names {plan : Plan} (h : Planned j sourceSchema batches plan) :
    plan.schema.names =
      plan.scan.schema.names.filter (· ∉ columnsWith plan.decision.effective .remove) := by
  obtain ⟨original, ho, hs⟩ := bind_eq_ok.1 h.schema
  rw [projectSchemaForGuardrails_names hs, applyColumnTypeOverridesToSchema_names ho]

/-- What a written frame shows of the extracted batch that it is written for. -/
structure Guarded (j : Job) (columns : List String) (effective : List (String × ActionName))
    (schema : ObjectSchema) (batch written : TransferBatch) : Prop where
  names : written.frame.names = schema.names
  removed : ∀ column, effective.lookup column = some .remove → column ∉ written.frame.names
  hashed : ∀ column, effective.lookup column = some .hash →
    ∀ s, written.frame.column? column = some s →
      ∃ key, j.settings.apiTokenKey = some key ∧
        HashedColumn j.lib columns j.snapshot.writePolicy.columnTypeOverrides (j.guardrailKey key)
          batch column s.values

/-- The key of the digests is derived when there are hashed columns. -/
theorem guardrailHmacKey_eq {plan : Plan} {hmacKey : Bytes} {column : String}
    (planned : Planned j sourceSchema batches plan) (h : guardrailHmacKey j plan = .ok hmacKey)
    (hashed : column ∈ columnsWith plan.decision.effective .hash) :
    ∃ key, j.settings.apiTokenKey = some key ∧ hmacKey = j.guardrailKey key := by
  have some_hashed : plan.decision.hashedColumns.isEmpty = false := by
    obtain ⟨destinationSchema, hd⟩ := planned.decision
    refine List.isEmpty_eq_false_iff_exists_mem.2 ⟨column, ?_⟩
    rw [hd] at hashed ⊢
    exact mem_sorted.2 hashed
  rw [guardrailHmacKey, some_hashed, if_neg Bool.false_ne_true] at h
  split at h
  · cases h
  · cases h
    exact ⟨_, by assumption, rfl⟩

theorem Loads.guarded {p : Progress} {before : List TransferBatch} {written : TransferBatch}
    (lawful : j.lib.Lawful) (h : Loads j p batches (before ++ [written])) :
    ∃ sourceSchema plan, p.Source sourceSchema batches ∧ Planned j sourceSchema batches plan ∧
      p.prepared = [plan.schema] ∧ ∃ batch, batches[before.length]? = some batch ∧
      Guarded j plan.scan.columns (scanEffective j sourceSchema plan.scan) plan.schema batch
        written := by
  obtain ⟨sourceSchema, plan, hmacKey, source, planned, prepared, derived, writes⟩ := h
  -- the last written batch is the image of the extracted one in its place
  obtain ⟨batch, place, hw⟩ : ∃ batch, batches[before.length]? = some batch ∧
      Writes j plan hmacKey batch written := by
    have last := List.forall₂_drop_append _ _ _ writes
    rw [List.length_append, List.length_singleton, List.drop_take, Nat.add_sub_cancel_left] at last
    cases hd : batches.drop before.length with
    | nil =>
      rw [hd] at last
      cases last
    | cons batch rest =>
      rw [hd] at last
      cases last with
      | cons hw _ =>
        refine ⟨batch, ?_, hw⟩
        rw [← List.head?_drop, hd, List.head?_cons]
  have mem : batch ∈ batches := List.mem_of_getElem? place
  refine ⟨sourceSchema, plan, source, planned, prepared, batch, place, ?_⟩
  have image := writtenBatch_image lawful planned.nodup hw
  have nonempty : batches ≠ [] := List.ne_nil_of_mem mem
  have columns := (scanned_of_scanAll lawful planned.scan).columns nonempty
  have lookup {column : String} {action : ActionName}
      (hl : (scanEffective j sourceSchema plan.scan).lookup column = some action) :
      column ∈ columnsWith plan.decision.effective action := by
    rw [← planned.effective_eq] at hl
    exact mem_columnsWith.2 ((lookup_eq_some_iff planned.nodup).1 hl)
  refine ⟨?_, ?_, ?_⟩
  · rw [image.names, columns, planned.schema_names]
  · intro column hl inFrame
    rw [image.names] at inFrame
    have kept := (List.mem_filter.1 inFrame).2
    exact (of_decide_eq_true kept) (lookup hl)
  · intro column hl s hs
    obtain ⟨key, active, rfl⟩ := guardrailHmacKey_eq planned derived (lookup hl)
    exact ⟨key, active, image.hashed column (lookup hl) s hs⟩

/-! ## Runs -/

/-- The progress of `execute_transfer` after some events. -/
def progressAfter (j : Job) (events : List (Program.Event Call.Answer Exn)) : Progress :=
  (transferProtocol j).after {} events

/-- The scan of the source that `execute_transfer` has inspected and read to its end. -/
structure ScannedSource (j : Job) (p : Progress) (sourceSchema : ObjectSchema)
    (batches : List TransferBatch) (scan : ScanState) : Prop where
  source : p.Source sourceSchema batches
  scan : scanAll j sourceSchema batches = .ok scan

/-- Every flagged column has an effective action, and the schema has the columns that are left. -/
structure Cleared (j : Job) (sourceSchema : ObjectSchema) (batches : List TransferBatch)
    (scan : ScanState) (schema : ObjectSchema) : Prop where
  actions : ∀ column, Flagged j.lib sourceSchema batches column →
    ∃ action, (scanEffective j sourceSchema scan).lookup column = some action
  schema : destinationSchemaFor j scan.schema (scanEffective j sourceSchema scan) = .ok schema

theorem Planned.cleared {plan : Plan} (lawful : j.lib.Lawful)
    (h : Planned j sourceSchema batches plan) :
    Cleared j sourceSchema batches plan.scan plan.schema := by
  refine ⟨fun column flagged => h.lookup_scanEffective lawful flagged, ?_⟩
  rw [← h.effective_eq]
  exact h.schema

section Reach

variable {events : List (Program.Event Call.Answer Exn)} {q : Transfer Unit}

theorem prepare_cleared (lawful : j.lib.Lawful) (run : Runs (executeTransfer j) events q)
    {schema : ObjectSchema} {policy : WritePolicy} {runId : String}
    (next : q.head = some (.prepareDestination schema policy runId)) :
    ∃ sourceSchema batches scan, ScannedSource j (progressAfter j events) sourceSchema batches scan ∧
      Cleared j sourceSchema batches scan schema := by
  have allowed := ((executeTransfer_sat lawful).runs run).allowed next
  obtain ⟨-, -, j', hj, sourceSchema, batches, plan, source, planned, rfl⟩ := allowed.1
  cases hj
  exact ⟨sourceSchema, batches, plan.scan, ⟨source, planned.scan⟩, planned.cleared lawful⟩

theorem write_guarded (lawful : j.lib.Lawful) (run : Runs (executeTransfer j) events q)
    {session : LoadSession} {written : TransferBatch}
    (next : q.head = some (.writeBatch session written)) :
    ∃ sourceSchema batches scan schema,
      ScannedSource j (progressAfter j events) sourceSchema batches scan ∧
      Cleared j sourceSchema batches scan schema ∧
      (progressAfter j events).prepared = [schema] ∧
      ∃ batch, batches[(progressAfter j events).written.length]? = some batch ∧
        Guarded j scan.columns (scanEffective j sourceSchema scan) schema batch written := by
  have allowed := ((executeTransfer_sat lawful).runs run).allowed next
  obtain ⟨-, -, j', hj, batches, loads⟩ := allowed.1
  cases hj
  obtain ⟨sourceSchema, plan, source, planned, prepared, guarded⟩ := loads.guarded lawful
  exact ⟨sourceSchema, batches, plan.scan, plan.schema, ⟨source, planned.scan⟩,
    planned.cleared lawful, prepared, guarded⟩

/-- A source has one schema, one sequence of batches and one scan. -/
theorem ScannedSource.unique {p : Progress} {src src' : ObjectSchema} {bs bs' : List TransferBatch}
    {scan scan' : ScanState} (h : ScannedSource j p src bs scan)
    (h' : ScannedSource j p src' bs' scan') : src' = src ∧ bs' = bs ∧ scan' = scan := by
  obtain rfl : src' = src := Option.some.inj (h'.source.inspected.symm.trans h.source.inspected)
  obtain rfl : bs' = bs := by
    have same := Option.some.inj (h'.source.extraction.symm.trans h.source.extraction)
    exact (Spool.Yield.mk.inj same).1
  exact ⟨rfl, rfl, Except.ok.inj (h'.scan.symm.trans h.scan)⟩

/-- Nothing flagged reaches the destination; a flagged column without an action blocks the run. -/
theorem nothing_flagged_reaches (lawful : j.lib.Lawful)
    (run : Runs (executeTransfer j) events q) :
    (∀ schema policy runId, q.head = some (.prepareDestination schema policy runId) →
      ∃ sourceSchema batches scan,
        ScannedSource j (progressAfter j events) sourceSchema batches scan ∧
        Cleared j sourceSchema batches scan schema) ∧
    (∀ session written, q.head = some (.writeBatch session written) →
      ∃ sourceSchema batches scan schema,
        ScannedSource j (progressAfter j events) sourceSchema batches scan ∧
        Cleared j sourceSchema batches scan schema ∧
        (progressAfter j events).prepared = [schema] ∧
        ∃ batch, batches[(progressAfter j events).written.length]? = some batch ∧
          Guarded j scan.columns (scanEffective j sourceSchema scan) schema batch written) ∧
    ∀ sourceSchema batches scan column,
      ScannedSource j (progressAfter j events) sourceSchema batches scan →
      (progressAfter j events).checked = true → Flagged j.lib sourceSchema batches column →
      (scanEffective j sourceSchema scan).lookup column = none →
      (∀ schema policy runId, q.head ≠ some (.prepareDestination schema policy runId)) ∧
      (∀ session written, q.head ≠ some (.writeBatch session written)) ∧
      ((progressAfter j events).blocked = false → ∀ c, q.head = some c →
        c = .inspectSource ∨ ∃ summary guardrail, c = .service (.blockRun summary guardrail)) ∧
      (q = .pure () → (progressAfter j events).blocked = true) ∧
      ∀ R now row summary guardrail token row',
        PipelineRun.blockRun R now row summary guardrail token = .ok row' →
        row'.status = .blocked ∧ row'.dataImpact = some .unchanged := by
  refine ⟨fun _ _ _ next => prepare_cleared lawful run next,
    fun _ _ next => write_guarded lawful run next, ?_⟩
  intro sourceSchema batches scan column known checked flagged missing
  have stuck {src : ObjectSchema} {bs : List TransferBatch} {scan' : ScanState}
      {schema : ObjectSchema} (known' : ScannedSource j (progressAfter j events) src bs scan')
      (cleared : Cleared j src bs scan' schema) : False := by
    obtain ⟨rfl, rfl, rfl⟩ := known.unique known'
    obtain ⟨action, ha⟩ := cleared.actions column flagged
    rw [missing] at ha
    cases ha
  have unresolved (open_ : (progressAfter j events).blocked = false) :
      Unresolved j (progressAfter j events) := by
    refine ⟨checked, open_, sourceSchema, batches, scan, known.source, known.scan, fun _ clear => ?_⟩
    obtain ⟨action, ha⟩ := lookup_of_flagged lawful known.scan clear flagged
    rw [missing] at ha
    cases ha
  have sat := (executeTransfer_sat lawful).runs run
  refine ⟨?_, ?_, ?_, ?_, ?_⟩
  · intro schema policy runId next
    obtain ⟨_, _, _, known', cleared⟩ := prepare_cleared lawful run next
    exact stuck known' cleared
  · intro session written next
    obtain ⟨_, _, _, _, known', cleared, -⟩ := write_guarded lawful run next
    exact stuck known' cleared
  · intro open_ c next
    cases (sat.allowed next).2 (unresolved open_) with
    | inspect => exact .inl rfl
    | block => exact .inr ⟨_, _, rfl⟩
  · rintro rfl
    refine Bool.of_not_eq_false fun open_ => ?_
    exact sat (unresolved open_)
  · intro R now row summary guardrail token row' h
    unfold PipelineRun.blockRun at h
    obtain ⟨-, h⟩ := PipelineRun.guarded_ok_iff.1 h
    obtain ⟨next, hn, h⟩ := bind_eq_ok.1 h
    obtain ⟨-, rfl⟩ := (PipelineRun.applyTransition_ok_iff ..).1 hn
    cases h
    exact ⟨rfl, rfl⟩

end Reach

/-- The sample library, with what `hmac` computes on the route below. -/
def Library.hashing : Library :=
  { Library.sample with
    hmacSha256 := fun key message =>
      if key = [1, 1, 1, 1] ∧ message =
          utf8 "data-mover-sensitive-guardrail-v1" ++ [0] ++ utf8 "user" ++ [0] ++ utf8 "pipeline" then
        [182, 185, 64, 71, 229, 75, 203, 183, 255, 206, 83, 215, 208, 102, 1, 12,
          179, 181, 68, 78, 175, 33, 139, 145, 236, 240, 4, 30, 225, 52, 213, 124]
      else
        [156, 159, 40, 202, 241, 40, 183, 172, 59, 44, 141, 23, 196, 43, 65, 161,
          113, 243, 252, 127, 206, 80, 163, 1, 35, 112, 35, 120, 253, 189, 136, 66] }

theorem Library.hashing_lawful : Library.hashing.Lawful :=
  { Library.sample_lawful with
    hmacSha256_length := fun key message => by
      unfold Library.hashing
      dsimp only
      split_ifs <;> rfl }

/-- The sample route, with digests in place of the social security numbers. -/
def hashingJob : Job :=
  { WorkerEnv.sample with
    lib := .hashing
    settings := { Settings.sample with apiTokenKey := some [1, 1, 1, 1] } : WorkerEnv }.job .sample
    { DefinitionSnapshot.sample with
      guardrailActions := [{ detector := .ssn, column := "ssn", action := .hash }] }

/-- `execute_transfer` on this route, when it is about to write the second batch. -/
def writingTransfer : List (Program.Event Call.Answer Exn) × Transfer Unit :=
  Program.play permutedAnswer 42 (executeTransfer hashingJob)

/-- The batch that a program is about to write. -/
def nextWrite (p : Transfer Unit) : Option TransferBatch :=
  match p.head with
  | some (.writeBatch _ batch) => some batch
  | _ => none

/-- The columns of that batch. -/
def digestedColumns : List Series := [
  ⟨"id", "Int64", [.int 3]⟩,
  ⟨"ssn", "String", [.text "9c9f28caf128b7ac3b2c8d17c42b41a171f3fc7fce50a30123702378fdbd8842"]⟩]

theorem nothing_flagged_reaches_writing : ∃ session written,
    writingTransfer.2.head = some (.writeBatch session written) ∧
    written.frame.columns = digestedColumns ∧
    ∃ sourceSchema batches scan schema,
      ScannedSource hashingJob (progressAfter hashingJob writingTransfer.1) sourceSchema batches
        scan ∧
      ∃ batch, batches[(progressAfter hashingJob writingTransfer.1).written.length]? = some batch ∧
        Guarded hashingJob scan.columns (scanEffective hashingJob sourceSchema scan) schema batch
          written := by
  have next : (nextWrite writingTransfer.2).map (·.frame.columns) = some digestedColumns := by
    decide +kernel
  obtain ⟨written, hw, columns⟩ := Option.map_eq_some_iff.1 next
  obtain ⟨session, head⟩ : ∃ session,
      writingTransfer.2.head = some (.writeBatch session written) := by
    unfold nextWrite at hw
    split at hw
    · cases hw
      exact ⟨_, by assumption⟩
    · cases hw
  have reaches := nothing_flagged_reaches (j := hashingJob) Library.hashing_lawful
    (Program.runs_play permutedAnswer 42 _)
  obtain ⟨sourceSchema, batches, scan, schema, known, -, -, guarded⟩ :=
    reaches.2.1 session written head
  exact ⟨session, written, head, columns, sourceSchema, batches, scan, schema, known, guarded⟩

end DataMover
