import DataMover.Engine.Casting

/-!
# Sensitive-data guardrails

The findings of a scan (columns that the provider's metadata marks as sensitive, and columns in which
some cell looks like a social security number), the saved actions that resolve them, the decision to
block or to go on, and the transformation of schemas and batches by the effective actions: a hashed
column keeps its name and its nulls, a removed column disappears.
-/

namespace DataMover

/-- `sorted(texts)`. -/
def sorted (texts : List String) : List String := texts.insertionSort (· ≤ ·)

@[simp] theorem mem_sorted {texts : List String} {t : String} : t ∈ sorted texts ↔ t ∈ texts :=
  (List.perm_insertionSort _ texts).mem_iff

/-! ## Content scan -/

/-- `scan_ssn_frame`. -/
def scanSsnFrame (lib : Library) (frame : Frame) (ignored : List String) : List (String × Nat) :=
  frame.columns.filterMap fun series =>
    if series.name ∈ ignored then none
    else
      let count := series.values.countP lib.containsSupportedSsn
      if count = 0 then none else some (series.name, count)

/-- `counts[column] = counts.get(column, 0) + count`. -/
def addCount : List (String × Nat) → String → Nat → List (String × Nat)
  | [], column, count => [(column, count)]
  | (c, n) :: rest, column, count =>
    if c = column then (c, n + count) :: rest else (c, n) :: addCount rest column count

/-- The counts of a scan after one more frame. -/
def addScan (counts : List (String × Nat)) (found : List (String × Nat)) : List (String × Nat) :=
  found.foldl (fun acc e => addCount acc e.1 e.2) counts

/-- The counts of all batches. -/
def scanCounts (lib : Library) (ignored : List String) (batches : List TransferBatch) :
    List (String × Nat) :=
  batches.foldl (fun acc batch => addScan acc (scanSsnFrame lib batch.frame ignored)) []

/-! ## Findings -/

/-- A finding, before it is resolved. -/
structure Finding where
  detector : Detector
  source : String
  column : String
  count : Option Nat
  deriving DecidableEq

/-- The columns that the metadata of a schema marks as sensitive. -/
def markedColumns (schema : ObjectSchema) : List String :=
  (schema.columnSensitivityMarkers.filter fun e => !e.2.isEmpty).map Prod.fst ++
    (schema.columns.filter fun column => !column.sensitivityMarkers.isEmpty).map ColumnSchema.name

/-- `_metadata_guardrail_findings`. -/
def metadataGuardrailFindings (schema : ObjectSchema) : List Finding :=
  let isDatabricks := schema.locator.databricks?.isSome
  (sorted (markedColumns schema).dedup).map fun name => {
    detector := if isDatabricks then .databricksMetadata else .foundryMetadata
    source := if isDatabricks then "Databricks metadata" else "Foundry metadata"
    column := name
    count := none }

/-- `metadata_sensitive_columns`. -/
def metadataSensitiveColumns (schema : ObjectSchema) : List String :=
  ((metadataGuardrailFindings schema).map Finding.column).filter (· ≠ "")

/-- The findings of the content scan, by column. -/
def ssnFindings (counts : List (String × Nat)) : List Finding :=
  (counts.insertionSort fun a b => a.1 ≤ b.1).map fun e => {
    detector := .ssn, source := "Content scan", column := e.1, count := some e.2 }

/-- `finding_keys`. -/
def findingKeys (findings : List Finding) : List (Detector × String) :=
  findings.map fun f => (f.detector, f.column)

/-- A saved decision for an available column counts as a finding, once. -/
def addSavedDecisions (available : List String) (findings : List Finding) :
    List GuardrailAction → List Finding
  | [] => findings
  | action :: rest =>
    if action.column ∈ available ∧ (action.detector, action.column) ∉ findingKeys findings then
      addSavedDecisions available
        (findings ++ [{
          detector := action.detector, source := "Saved decision", column := action.column,
          count := none }]) rest
    else addSavedDecisions available findings rest

/-- The findings of a completed scan. -/
def scanFindings (actions : List GuardrailAction) (sourceSchema schema : ObjectSchema)
    (counts : List (String × Nat)) : List Finding :=
  addSavedDecisions schema.names (metadataGuardrailFindings sourceSchema ++ ssnFindings counts) actions

/-! ## Effective actions -/

/-- `action_lookup`: of repeated decisions the last one counts. -/
def actionLookup (actions : List GuardrailAction) (key : Detector × String) : Option ActionName :=
  (actions.reverse.find? fun action => (action.detector, action.column) = key).map
    GuardrailAction.action

/-- The action that is saved for a finding. -/
def selectedAction (actions : List GuardrailAction) (finding : Finding) : Option ActionName :=
  actionLookup actions (finding.detector, finding.column)

/-- `effective.setdefault(column, set()).add(action)`. -/
def addAction : List (String × List ActionName) → String → ActionName →
    List (String × List ActionName)
  | [], column, action => [(column, [action])]
  | (c, selected) :: rest, column, action =>
    if c = column then (c, action :: selected) :: rest
    else (c, selected) :: addAction rest column action

/-- The actions selected for each column. -/
def selectedActions (findings : List Finding) (actions : List GuardrailAction) :
    List (String × List ActionName) :=
  findings.foldl (fun acc finding =>
    match selectedAction actions finding with
    | some action => addAction acc finding.column action
    | none => acc) []

/-- The first result of `_effective_actions`: removal wins. -/
def effectiveActions (findings : List Finding) (actions : List GuardrailAction) :
    List (String × ActionName) :=
  (selectedActions findings actions).map fun e =>
    (e.1, if ActionName.remove ∈ e.2 then .remove else .hash)

/-- A finding with its resolution. -/
structure ResolvedFinding extends Finding where
  action : Option ActionName
  outcome : String
  effectiveAction : Option ActionName
  deriving DecidableEq

/-- The second result of `_effective_actions`. -/
def resolvedFindings (findings : List Finding) (actions : List GuardrailAction) :
    List ResolvedFinding :=
  findings.map fun finding =>
    let selected := selectedAction actions finding
    { finding with
      action := selected
      outcome := if selected.isSome then "applied" else "review_required"
      effectiveAction := selected.bind fun _ =>
        (effectiveActions findings actions).lookup finding.column }

/-- A finding as stored in the guardrail document. -/
def ResolvedFinding.json (f : ResolvedFinding) : Json :=
  .obj ([
    ("detector", .str f.detector.value),
    ("source", .str f.source),
    ("column", .str f.column),
    ("count", (f.count.map fun n => Json.int n).getD .null),
    ("action", (f.action.map fun a => Json.str a.value).getD .null),
    ("outcome", .str f.outcome)] ++
    if f.action.isSome then
      [("effective_action", (f.effectiveAction.map fun a => Json.str a.value).getD .null)]
    else [])

/-- `action.model_dump(mode="json")`. -/
def GuardrailAction.json (a : GuardrailAction) : Json :=
  .obj [
    ("detector", .str a.detector.value),
    ("column", .str a.column),
    ("action", .str a.action.value),
    ("source_key", .str a.sourceKey)]

/-- `_guardrail_document`. -/
def guardrailDocument (findings : List Json) (actions : List GuardrailAction) (outcome : String)
    (scanComplete : Bool) (scannedRows scannedBytes : Nat)
    (removedColumns hashedColumns : List String) (blockedReason : String) : Document := [
  ("version", .int 1),
  ("outcome", .str outcome),
  ("execution_outcome", .str "not_started"),
  ("destination_outcome", .str (if outcome = "blocked" then "unchanged" else "pending")),
  ("scan_complete", .bool scanComplete),
  ("scanned_rows", .int scannedRows),
  ("scanned_bytes", .int scannedBytes),
  ("findings", .arr findings),
  ("actions", .arr (actions.map GuardrailAction.json)),
  ("removed_columns", .arr (removedColumns.map Json.str)),
  ("hashed_columns", .arr (hashedColumns.map Json.str)),
  ("blocked_reason", .str blockedReason)]

/-! ## The decision -/

/-- The columns with an action, in order. -/
def columnsWith (effective : List (String × ActionName)) (action : ActionName) : List String :=
  (effective.filter fun e => e.2 = action).map Prod.fst

/-- `protected_keys`. -/
def protectedKeys (policy : WritePolicy) (destinationSchema : Option ObjectSchema) : List String :=
  (match policy.mode with
    | .postgresUpsert conflictColumns _ => conflictColumns
    | .postgresAppend primaryKeyColumns _ | .postgresReplace _ primaryKeyColumns _ =>
      primaryKeyColumns
    | _ => []) ++
  match destinationSchema with
  | some schema => schema.primaryKey ++ schema.uniqueConstraints.flatten
  | none => []

def missingReason : String := "A marked source column is missing from the extracted schema."
def protectedReason : String := "A required destination key cannot be removed."
def emptyReason : String := "Sensitive-data actions would remove every source column."
def unresolvedReason : String := "One or more findings still need an action."

/-- What the engine decides after the scan. -/
structure Decision where
  effective : List (String × ActionName)
  findings : List ResolvedFinding
  removedColumns : List String
  hashedColumns : List String
  blockedReason : String
  unresolved : Bool
  appliedActions : List GuardrailAction

/-- The reason of a block that is found in the effective actions, with the columns it is about. -/
def blockingColumns (effective : List (String × ActionName)) (schema : ObjectSchema)
    (protected_ : List String) : String × List String :=
  let removed := sorted (columnsWith effective .remove)
  let missing := (effective.map Prod.fst).filter (· ∉ schema.names)
  if missing ≠ [] then (missingReason, missing)
  else if removed ≠ [] ∧ protected_.any (· ∈ removed) then
    (protectedReason, protected_.filter (· ∈ removed))
  else if schema.columns ≠ [] ∧ schema.columns.length ≤ removed.length then (emptyReason, removed)
  else ("", [])

/-- The guardrail decision of `execute_transfer`. -/
def guardrailDecision (snapshot : DefinitionSnapshot) (sourceSchema schema : ObjectSchema)
    (counts : List (String × Nat)) (destinationSchema : Option ObjectSchema) : Decision :=
  let actions := snapshot.guardrailActions
  let findings := scanFindings actions sourceSchema schema counts
  let effective := effectiveActions findings actions
  let resolved := resolvedFindings findings actions
  let unresolved := resolved.any fun f => f.action.isNone
  let blocking := blockingColumns effective schema
    (protectedKeys snapshot.writePolicy destinationSchema)
  { effective
    findings := resolved.map fun f =>
      -- a selected action stays pending until the destination has committed
      { f with outcome := if f.column ∈ blocking.2 then "blocked"
          else if f.action.isSome then "selected" else f.outcome }
    removedColumns := sorted (columnsWith effective .remove)
    hashedColumns := sorted (columnsWith effective .hash)
    blockedReason := if blocking.1 = "" ∧ unresolved then unresolvedReason else blocking.1
    unresolved
    appliedActions := actions.filter fun a => (a.detector, a.column) ∈ findingKeys findings }

/-- The summary of a blocked run. -/
def blockedSummary (d : Decision) : String :=
  if d.unresolved ∧ d.blockedReason = unresolvedReason then
    "Sensitive-data guardrails blocked the run before destination writes. " ++
      "Review the flagged source columns and choose Hash or Remove."
  else if d.blockedReason = protectedReason then
    "Sensitive-data guardrails blocked the run before destination writes because " ++
      "a required destination key cannot be removed."
  else if d.blockedReason = missingReason then
    "Sensitive-data guardrails blocked the run before destination writes because " ++
      "a flagged source column was not present in the extracted schema."
  else
    "Sensitive-data guardrails blocked the run before destination writes because " ++
      "the selected actions would remove every source column."

/-- The guardrail document of a decision. -/
def Decision.document (d : Decision) (scannedRows scannedBytes : Nat) : Document :=
  guardrailDocument (d.findings.map ResolvedFinding.json) d.appliedActions
    (if d.blockedReason ≠ "" then "blocked"
      else if d.appliedActions ≠ [] then "pending" else "clear")
    true scannedRows scannedBytes d.removedColumns d.hashedColumns d.blockedReason

/-! ## Transformation -/

/-- `project_schema_for_guardrails`. -/
def projectSchemaForGuardrails (schema : ObjectSchema) (actions : List (String × ActionName)) :
    Except Exn ObjectSchema :=
  let removed := columnsWith actions .remove
  let columns := (schema.columns.filter fun column => column.name ∉ removed).map fun column => {
    name := column.name
    dataType := if actions.lookup column.name = some .hash then "String" else column.dataType
    nullable := column.nullable
    sensitivityMarkers := column.sensitivityMarkers : ColumnSchema }
  if schema.columns ≠ [] ∧ columns = [] then
    .error (schemaDrift "Sensitive-data actions would remove every source column.")
  else .ok { schema with
    columns
    primaryKey := schema.primaryKey.filter (· ∉ removed)
    uniqueConstraints := schema.uniqueConstraints.filter fun constraint =>
      constraint.all (· ∉ removed)
    removedColumns := sorted (schema.removedColumns ++ removed).dedup }

/-- A digit of `hexdigest()`. -/
def hexDigit (n : Fin 16) : Char := "0123456789abcdef".toList.get n

/-- `digest.hex()`. -/
def hexdigest (digest : Bytes) : String :=
  String.ofList (digest.flatMap fun b =>
    [hexDigit ⟨b.toNat / 16, by have := b.toNat_lt; omega⟩,
      hexDigit ⟨b.toNat % 16, Nat.mod_lt _ (by omega)⟩])

/-- The cell that replaces a cell of a hashed column. -/
def hashCell (lib : Library) (hmacKey : Bytes) (name : String) (value : Cell) : Cell :=
  if value = .null then .null
  else .text (hexdigest (lib.hmacSha256 hmacKey (utf8 name ++ [0] ++ value.encoded)))

/-- Hash the columns one after the other. -/
def hashColumns (lib : Library) (hmacKey : Bytes) : List String → Frame → Except Exn Frame
  | [], frame => .ok frame
  | name :: rest, frame =>
    match frame.column? name with
    | none => .error (schemaDrift "A guarded source column changed during the pre-write scan.")
    | some series => do
      let frame ← frame.withColumns
        [⟨name, "String", series.values.map (hashCell lib hmacKey name)⟩]
      hashColumns lib hmacKey rest frame

/-- `frame.drop(removed)`, when there is something to remove. -/
def dropRemoved (removed : List String) (frame : Frame) : Except Exn Frame :=
  if removed.isEmpty then .ok frame else frame.drop removed

/-- `_transform_batch_for_guardrails`. -/
def transformBatchForGuardrails (lib : Library) (batch : TransferBatch)
    (actions : List (String × ActionName)) (hmacKey : Bytes) : Except Exn TransferBatch := do
  let frame ← hashColumns lib hmacKey (columnsWith actions .hash) batch.frame
  let frame ← dropRemoved (columnsWith actions .remove) frame
  return { batch with frame := frame, byteCount := lib.estimatedSize frame }

/-! ## What the scan finds -/

/-- The column is marked as sensitive, or some cell of it looks like a social security number. -/
def Flagged (lib : Library) (sourceSchema : ObjectSchema) (batches : List TransferBatch)
    (column : String) : Prop :=
  column ∈ markedColumns sourceSchema ∨
    ∃ batch ∈ batches, ∃ series ∈ batch.frame.columns, series.name = column ∧
      ∃ value ∈ series.values, lib.containsSupportedSsn value = true

section Scan

variable {lib : Library}

theorem mem_keys_addCount {counts : List (String × Nat)} {column c : String} {n : Nat} :
    c ∈ (addCount counts column n).map Prod.fst ↔ c = column ∨ c ∈ counts.map Prod.fst := by
  induction counts with
  | nil => simp [addCount]
  | cons e rest ih =>
    obtain ⟨d, m⟩ := e
    rw [addCount]
    split_ifs with h
    · subst h
      simp
    · rw [List.map_cons, List.mem_cons, ih, List.map_cons, List.mem_cons]
      tauto

theorem mem_keys_addScan {counts found : List (String × Nat)} {c : String} :
    c ∈ (addScan counts found).map Prod.fst ↔
      c ∈ found.map Prod.fst ∨ c ∈ counts.map Prod.fst := by
  induction found generalizing counts with
  | nil => simp [addScan]
  | cons e rest ih =>
    have step : addScan counts (e :: rest) = addScan (addCount counts e.1 e.2) rest := rfl
    rw [step, ih, mem_keys_addCount, List.map_cons, List.mem_cons]
    tauto

/-- A scan counts every column with a match, unless it is told to ignore it. -/
theorem mem_keys_scanSsnFrame {frame : Frame} {ignored : List String} {series : Series}
    (hs : series ∈ frame.columns) (scanned : series.name ∉ ignored)
    (hit : ∃ value ∈ series.values, lib.containsSupportedSsn value = true) :
    series.name ∈ (scanSsnFrame lib frame ignored).map Prod.fst := by
  obtain ⟨value, hv, hssn⟩ := hit
  have positive : series.values.countP lib.containsSupportedSsn ≠ 0 := by
    have := List.countP_pos_iff.2 ⟨value, hv, hssn⟩
    omega
  have counted : (series.name, series.values.countP lib.containsSupportedSsn) ∈
      scanSsnFrame lib frame ignored := by
    refine List.mem_filterMap.2 ⟨series, hs, ?_⟩
    rw [if_neg scanned]
    exact if_neg positive
  exact List.mem_map_of_mem counted

theorem mem_keys_scanCounts {ignored : List String} {batches : List TransferBatch}
    {batch : TransferBatch} {c : String} (hb : batch ∈ batches)
    (hc : c ∈ (scanSsnFrame lib batch.frame ignored).map Prod.fst) :
    c ∈ (scanCounts lib ignored batches).map Prod.fst := by
  suffices along : ∀ counts : List (String × Nat), c ∈ (batches.foldl
      (fun acc batch => addScan acc (scanSsnFrame lib batch.frame ignored)) counts).map Prod.fst by
    exact along []
  have kept : ∀ (bs : List TransferBatch) (counts : List (String × Nat)),
      c ∈ counts.map Prod.fst → c ∈ (bs.foldl
        (fun acc batch => addScan acc (scanSsnFrame lib batch.frame ignored)) counts).map Prod.fst := by
    intro bs
    induction bs with
    | nil => exact fun _ h => h
    | cons b rest ih => exact fun counts h => ih _ (mem_keys_addScan.2 (.inr h))
  induction batches with
  | nil => cases hb
  | cons b rest ih =>
    intro counts
    rcases List.mem_cons.1 hb with rfl | hb
    · exact kept rest _ (mem_keys_addScan.2 (.inl hc))
    · exact ih hb _

theorem scanCounts_append (ignored : List String) (batches rest : List TransferBatch) :
    scanCounts lib ignored (batches ++ rest) =
      rest.foldl (fun acc batch => addScan acc (scanSsnFrame lib batch.frame ignored))
        (scanCounts lib ignored batches) := by
  rw [scanCounts, List.foldl_append, ← scanCounts]

theorem subset_addSavedDecisions (available : List String) (findings : List Finding)
    (actions : List GuardrailAction) :
    findings ⊆ addSavedDecisions available findings actions := by
  induction actions generalizing findings with
  | nil => exact List.Subset.refl _
  | cons action rest ih =>
    rw [addSavedDecisions]
    split_ifs
    · exact List.Subset.trans (List.subset_append_left _ _) (ih _)
    · exact ih findings

/-- Every flagged column has a finding. -/
theorem exists_finding_of_flagged (actions : List GuardrailAction) (schema : ObjectSchema)
    {sourceSchema : ObjectSchema} {batches : List TransferBatch} {column : String}
    (flagged : Flagged lib sourceSchema batches column) :
    ∃ f ∈ scanFindings actions sourceSchema schema
      (scanCounts lib (metadataSensitiveColumns sourceSchema) batches), f.column = column := by
  have marked (hm : column ∈ markedColumns sourceSchema) :
      ∃ f ∈ metadataGuardrailFindings sourceSchema, f.column = column := by
    refine ⟨_, List.mem_map.2 ⟨column, ?_, rfl⟩, rfl⟩
    simpa using hm
  have found {f : Finding} (hf : f ∈ metadataGuardrailFindings sourceSchema ++
      ssnFindings (scanCounts lib (metadataSensitiveColumns sourceSchema) batches)) :
      f ∈ scanFindings actions sourceSchema schema
        (scanCounts lib (metadataSensitiveColumns sourceSchema) batches) :=
    subset_addSavedDecisions _ _ _ hf
  rcases flagged with hm | ⟨batch, hb, series, hs, rfl, hit⟩
  · obtain ⟨f, hf, hc⟩ := marked hm
    exact ⟨f, found (List.mem_append_left _ hf), hc⟩
  · -- the content scan skips the columns that the metadata marks
    by_cases ignored : series.name ∈ metadataSensitiveColumns sourceSchema
    · obtain ⟨f, hf, hc⟩ := List.mem_map.1 (List.mem_filter.1 ignored).1
      exact ⟨f, found (List.mem_append_left _ hf), hc⟩
    · obtain ⟨e, he, hname⟩ :=
        List.mem_map.1 (mem_keys_scanCounts hb (mem_keys_scanSsnFrame hs ignored hit))
      have mem : e ∈ (scanCounts lib (metadataSensitiveColumns sourceSchema) batches).insertionSort
          (fun a b => a.1 ≤ b.1) := (List.perm_insertionSort _ _).mem_iff.2 he
      exact ⟨_, found (List.mem_append_right _ (List.mem_map.2 ⟨e, mem, rfl⟩)), hname⟩

end Scan

/-! ## What a decision guarantees -/

section Decisions

variable {findings : List Finding} {actions : List GuardrailAction}

theorem mem_keys_addAction {selected : List (String × List ActionName)} {column c : String}
    {action : ActionName} :
    c ∈ (addAction selected column action).map Prod.fst ↔
      c = column ∨ c ∈ selected.map Prod.fst := by
  induction selected with
  | nil => simp [addAction]
  | cons e rest ih =>
    obtain ⟨d, as⟩ := e
    rw [addAction]
    split_ifs with h
    · subst h
      simp
    · rw [List.map_cons, List.mem_cons, ih, List.map_cons, List.mem_cons]
      tauto

theorem nodup_keys_addAction {selected : List (String × List ActionName)} {column : String}
    {action : ActionName} (h : (selected.map Prod.fst).Nodup) :
    ((addAction selected column action).map Prod.fst).Nodup := by
  induction selected with
  | nil => simp [addAction]
  | cons e rest ih =>
    obtain ⟨d, as⟩ := e
    rw [List.map_cons, List.nodup_cons] at h
    rw [addAction]
    split_ifs with hd
    · exact List.nodup_cons.2 h
    · refine List.nodup_cons.2 ⟨fun hm => ?_, ih h.2⟩
      rcases mem_keys_addAction.1 hm with rfl | hm
      · exact hd rfl
      · exact h.1 hm

/-- One more finding keeps the keys distinct, keeps the old ones and adds its own. -/
theorem selectedActions_fold (findings : List Finding) :
    ∀ acc : List (String × List ActionName), (acc.map Prod.fst).Nodup →
      let result := findings.foldl (fun acc finding =>
        match selectedAction actions finding with
        | some action => addAction acc finding.column action
        | none => acc) acc
      (result.map Prod.fst).Nodup ∧ acc.map Prod.fst ⊆ result.map Prod.fst ∧
        ∀ f ∈ findings, (selectedAction actions f).isSome → f.column ∈ result.map Prod.fst := by
  induction findings with
  | nil => exact fun acc h => ⟨h, List.Subset.refl _, nofun⟩
  | cons f rest ih =>
    intro acc h
    simp only [List.foldl_cons]
    rcases hf : selectedAction actions f with _ | action
    · obtain ⟨nodup, sub, all⟩ := ih acc h
      refine ⟨nodup, sub, fun g hg hs => ?_⟩
      rcases List.mem_cons.1 hg with rfl | hg
      · rw [hf] at hs
        cases hs
      · exact all g hg hs
    · obtain ⟨nodup, sub, all⟩ := ih (addAction acc f.column action) (nodup_keys_addAction h)
      refine ⟨nodup, fun c hc => sub (mem_keys_addAction.2 (.inr hc)), fun g hg hs => ?_⟩
      rcases List.mem_cons.1 hg with rfl | hg
      · exact sub (mem_keys_addAction.2 (.inl rfl))
      · exact all g hg hs

theorem keys_effectiveActions :
    (effectiveActions findings actions).map Prod.fst =
      (selectedActions findings actions).map Prod.fst := by
  rw [effectiveActions, List.map_map]
  rfl

theorem nodup_effectiveActions : ((effectiveActions findings actions).map Prod.fst).Nodup := by
  rw [keys_effectiveActions]
  exact (selectedActions_fold findings [] List.nodup_nil).1

/-- A finding with a selected action makes its column effective. -/
theorem mem_keys_effectiveActions {f : Finding} (hf : f ∈ findings)
    (selected : (selectedAction actions f).isSome) :
    f.column ∈ (effectiveActions findings actions).map Prod.fst := by
  rw [keys_effectiveActions]
  exact (selectedActions_fold findings [] List.nodup_nil).2.2 f hf selected

/-- In a dictionary the entry of a key is what the lookup returns. -/
theorem lookup_eq_some_iff {α : Type} {entries : List (String × α)} {key : String} {value : α}
    (nodup : (entries.map Prod.fst).Nodup) :
    entries.lookup key = some value ↔ (key, value) ∈ entries := by
  induction entries with
  | nil => simp
  | cons e rest ih =>
    obtain ⟨k, v⟩ := e
    rw [List.map_cons, List.nodup_cons] at nodup
    by_cases h : key = k
    · subst h
      rw [List.lookup_cons_self, Option.some.injEq, List.mem_cons, Prod.mk.injEq]
      constructor
      · rintro rfl
        exact .inl ⟨rfl, rfl⟩
      · rintro (⟨-, rfl⟩ | hm)
        · rfl
        · exact absurd (List.mem_map_of_mem hm) nodup.1
    · have hb : (key == k) = false := by simpa using h
      rw [List.lookup, hb, ih nodup.2, List.mem_cons, Prod.mk.injEq]
      exact ⟨.inr, fun hm => hm.resolve_left fun e => h e.1⟩

theorem mem_columnsWith {effective : List (String × ActionName)} {action : ActionName} {c : String} :
    c ∈ columnsWith effective action ↔ (c, action) ∈ effective := by
  simp only [columnsWith, List.mem_map, List.mem_filter, decide_eq_true_eq]
  constructor
  · rintro ⟨e, ⟨he, rfl⟩, rfl⟩
    exact he
  · exact fun h => ⟨_, ⟨h, rfl⟩, rfl⟩

/-- No hashed column is removed, and no column is hashed twice. -/
theorem nodup_columnsWith {effective : List (String × ActionName)}
    (nodup : (effective.map Prod.fst).Nodup) (action : ActionName) :
    (columnsWith effective action).Nodup :=
  nodup.sublist (List.filter_sublist.map _)

/-- An unblocked decision has an action for every finding, on columns that the scan has seen. -/
theorem guardrailDecision_unblocked {snapshot : DefinitionSnapshot}
    {sourceSchema schema : ObjectSchema} {counts : List (String × Nat)}
    {destinationSchema : Option ObjectSchema}
    (h : (guardrailDecision snapshot sourceSchema schema counts destinationSchema).blockedReason = "") :
    let findings := scanFindings snapshot.guardrailActions sourceSchema schema counts
    let effective := effectiveActions findings snapshot.guardrailActions
    (∀ f ∈ findings, ∃ action, effective.lookup f.column = some action) ∧
      ∀ e ∈ effective, e.1 ∈ schema.names := by
  intro findings effective
  simp only [guardrailDecision] at h
  split_ifs at h with blocked
  · exact absurd h (by decide)
  · have resolved : (resolvedFindings findings snapshot.guardrailActions).any
        (fun f => f.action.isNone) = false :=
      Bool.eq_false_iff.2 fun hu => blocked ⟨h, hu⟩
    constructor
    · intro f hf
      have selected : (selectedAction snapshot.guardrailActions f).isSome := by
        rw [List.any_eq_false] at resolved
        have := resolved _ (List.mem_map.2 ⟨f, hf, rfl⟩)
        simpa [Option.isSome_iff_ne_none] using this
      obtain ⟨⟨c, action⟩, he, rfl⟩ := List.mem_map.1 (mem_keys_effectiveActions hf selected)
      exact ⟨action, (lookup_eq_some_iff nodup_effectiveActions).2 he⟩
    · intro e he
      unfold blockingColumns at h
      simp only at h
      split_ifs at h with missing
      · exact absurd h (by decide : missingReason ≠ "")
      · exact absurd h (by decide : protectedReason ≠ "")
      · exact absurd h (by decide : emptyReason ≠ "")
      · by_contra hn
        refine missing fun none => ?_
        have : e.1 ∈ (effective.map Prod.fst).filter (· ∉ schema.names) :=
          List.mem_filter.2 ⟨List.mem_map_of_mem he, by simpa using hn⟩
        rw [none] at this
        cases this

end Decisions

/-! ## What the transformation does -/

section Transformation

variable {lib : Library} {actions : List (String × ActionName)} {hmacKey : Bytes}

theorem projectSchemaForGuardrails_names {schema schema' : ObjectSchema}
    (h : projectSchemaForGuardrails schema actions = .ok schema') :
    schema'.names = schema.names.filter (· ∉ columnsWith actions .remove) := by
  unfold projectSchemaForGuardrails at h
  simp only at h
  split_ifs at h
  cases h
  simp only [ObjectSchema.names, List.map_map, List.filter_map]
  rfl

theorem length_hexdigest (digest : Bytes) : (hexdigest digest).toList.length = 2 * digest.length := by
  rw [hexdigest, String.toList_ofList]
  induction digest with
  | nil => rfl
  | cons b rest ih =>
    rw [List.flatMap_cons, List.length_append, ih, List.length_cons]
    simp only [List.length_cons, List.length_nil]
    omega

theorem hexdigest_chars (digest : Bytes) :
    ∀ c ∈ (hexdigest digest).toList, c ∈ "0123456789abcdef".toList := by
  intro c hc
  rw [hexdigest, String.toList_ofList, List.mem_flatMap] at hc
  obtain ⟨b, -, hc⟩ := hc
  rcases List.mem_cons.1 hc with rfl | hc
  · exact List.get_mem _ _
  · rw [List.mem_singleton.1 hc]
    exact List.get_mem _ _

/-- A 64-character hexadecimal text. -/
def IsHexDigest (s : String) : Prop :=
  s.toList.length = 64 ∧ ∀ c ∈ s.toList, c ∈ "0123456789abcdef".toList

/-- A cell of a hashed column: null for a null, and for any other value the 64 hexadecimal digits of
the HMAC of the column's name and the value. -/
structure HashedCell (lib : Library) (hmacKey : Bytes) (name : String) (value written : Cell) :
    Prop where
  null : value = .null → written = .null
  digest : value ≠ .null → ∃ digest, written = .text digest ∧ IsHexDigest digest ∧
    digest = hexdigest (lib.hmacSha256 hmacKey (utf8 name ++ [0] ++ value.encoded))

theorem hashCell_hashed (lawful : lib.Lawful) (name : String) (value : Cell) :
    HashedCell lib hmacKey name value (hashCell lib hmacKey name value) := by
  unfold hashCell
  constructor
  · exact fun h => if_pos h
  · intro h
    rw [if_neg h]
    refine ⟨_, rfl, ⟨?_, hexdigest_chars _⟩, rfl⟩
    rw [length_hexdigest, lawful.hmacSha256_length]

/-- Hashing keeps the names, hashes the named columns once and keeps the others. -/
theorem hashColumns_spec {names : List String} {frame frame' : Frame} (nodup : names.Nodup)
    (h : hashColumns lib hmacKey names frame = .ok frame') :
    frame'.names = frame.names ∧ (∀ n ∈ names, n ∈ frame.names) ∧
      (∀ n ∉ names, frame'.column? n = frame.column? n) ∧
      ∀ n ∈ names, ∀ s, frame.column? n = some s →
        frame'.column? n = some ⟨n, "String", s.values.map (hashCell lib hmacKey n)⟩ := by
  induction names generalizing frame with
  | nil =>
    cases h
    exact ⟨rfl, nofun, fun _ _ => rfl, nofun⟩
  | cons name rest ih =>
    obtain ⟨fresh, nodup⟩ := List.nodup_cons.1 nodup
    rw [hashColumns] at h
    split at h
    · cases h
    · rename_i series hs
      obtain ⟨middle, hm, h⟩ := bind_eq_ok.1 h
      obtain ⟨hmem, hname⟩ := Frame.column?_eq_some_iff.1 hs
      have inFrame : name ∈ frame.names := hname ▸ Frame.mem_names hmem
      have present : ∀ t ∈ [(⟨name, "String", series.values.map (hashCell lib hmacKey name)⟩ :
          Series)], t.name ∈ frame.names := by
        intro t ht
        rw [List.mem_singleton.1 ht]
        exact inFrame
      have names := Frame.withColumns_names present hm
      have columns := Frame.withColumns_column? present hm
      obtain ⟨names', sub, kept, hashed⟩ := ih nodup h
      refine ⟨names'.trans names, ?_, ?_, ?_⟩
      · intro n hn
        rcases List.mem_cons.1 hn with rfl | hn
        · exact inFrame
        · exact names ▸ sub n hn
      · intro n hn
        rw [kept n fun hr => hn (List.mem_cons_of_mem _ hr), columns n]
        have ne : name ≠ n := fun e => hn (e ▸ List.mem_cons_self)
        simp [ne]
      · intro n hn s hs'
        rcases List.mem_cons.1 hn with rfl | hn
        · rw [kept n fresh, columns n, hs']
          rw [hs, Option.some.injEq] at hs'
          simp [hs']
        · refine hashed n hn s ?_
          have ne : name ≠ n := fun e => fresh (e ▸ hn)
          rw [columns n, hs']
          simp [ne]

/-- What `_transform_batch_for_guardrails` does to a batch. -/
structure Transforms (lib : Library) (actions : List (String × ActionName)) (hmacKey : Bytes)
    (batch batch' : TransferBatch) : Prop where
  rowCount : batch'.rowCount = batch.rowCount
  sequence : batch'.sequence = batch.sequence
  names : batch'.frame.names = batch.frame.names.filter (· ∉ columnsWith actions .remove)
  hashed : ∀ n ∈ columnsWith actions .hash, ∀ s, batch.frame.column? n = some s →
    ∃ s', batch'.frame.column? n = some s' ∧
      List.Forall₂ (HashedCell lib hmacKey n) s.values s'.values

theorem transformBatchForGuardrails_transforms (lawful : lib.Lawful)
    (nodup : (actions.map Prod.fst).Nodup) {batch batch' : TransferBatch}
    (h : transformBatchForGuardrails lib batch actions hmacKey = .ok batch') :
    Transforms lib actions hmacKey batch batch' := by
  unfold transformBatchForGuardrails at h
  obtain ⟨hashed, hh, h⟩ := bind_eq_ok.1 h
  obtain ⟨frame, hd, h⟩ := bind_eq_ok.1 h
  cases h
  obtain ⟨names, -, -, columns⟩ := hashColumns_spec (nodup_columnsWith nodup .hash) hh
  have dropped : frame.names = hashed.names.filter (· ∉ columnsWith actions .remove) ∧
      ∀ n ∉ columnsWith actions .remove, frame.column? n = hashed.column? n := by
    unfold dropRemoved at hd
    split_ifs at hd with none
    · cases hd
      rw [List.isEmpty_iff.1 none]
      exact ⟨by simp, fun _ _ => rfl⟩
    · obtain ⟨hn, -, kept⟩ := Frame.drop_eq_ok hd
      exact ⟨hn, kept⟩
  refine ⟨rfl, rfl, by rw [dropped.1, names], fun n hn s hs => ?_⟩
  have notRemoved : n ∉ columnsWith actions .remove := by
    intro hr
    have first := (lookup_eq_some_iff nodup).2 (mem_columnsWith.1 hn)
    have second := (lookup_eq_some_iff nodup).2 (mem_columnsWith.1 hr)
    rw [first] at second
    cases second
  refine ⟨_, (dropped.2 n notRemoved).trans (columns n hn s hs), ?_⟩
  rw [List.forall₂_map_right_iff]
  exact List.forall₂_same.2 fun value _ => hashCell_hashed lawful n value

end Transformation

end DataMover
