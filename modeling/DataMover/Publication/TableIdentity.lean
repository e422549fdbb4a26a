import DataMover.Engine.Keys
import DataMover.Text.JsonText
import DataMover.Text.Utf8

/-!
# The identity of a table

Two notions of the same table.  The publication fence keys a Databricks table by its workspace and its
case-folded names; the check that a route does not write its own source compares the names as they are
spelled.  For two locators with one key, the check sees the overlap exactly when the names are spelled
alike.
-/

namespace DataMover

/-- `_target_key`. -/
def targetKey (lib : Library) (sha256 : Bytes → Bytes) (locator : DatabricksTable) : String :=
  hexdigest (sha256 (utf8 (JsonText.dumps [
    locator.workspaceId,
    lib.casefold locator.catalog,
    lib.casefold locator.schemaName,
    lib.casefold locator.table])))

/-- `locators_overlap`. -/
def locatorsOverlap (sourceProvider : String) (sourceLocator : Locator)
    (destinationProvider : String) (destinationLocator : Locator) : Bool :=
  sourceProvider = destinationProvider &&
    match sourceLocator, destinationLocator with
    | .postgresTable schemaName table, .postgresTable schemaName' table' =>
      schemaName = schemaName' && table = table'
    | .databricksTable s, .databricksTable d =>
      s.workspaceId = d.workspaceId && s.catalog = d.catalog && s.schemaName = d.schemaName &&
        s.table = d.table && (s.objectId = "" || d.objectId = "" || s.objectId = d.objectId)
    | .foundryDatasetFiles datasetRid branch filePaths, .foundryUpload datasetRid' branch' fileName _ =>
      datasetRid = datasetRid' && branch = branch' &&
        match filePaths with
        | none => true
        | some paths => paths.contains fileName
    | _, _ => false

/-- Two locators carry two different object ids. -/
def DifferentObjects (s d : DatabricksTable) : Prop :=
  s.objectId ≠ "" ∧ d.objectId ≠ "" ∧ s.objectId ≠ d.objectId

instance (s d : DatabricksTable) : Decidable (DifferentObjects s d) :=
  inferInstanceAs (Decidable (s.objectId ≠ "" ∧ d.objectId ≠ "" ∧ s.objectId ≠ d.objectId))

/-- The names of two locators are spelled alike. -/
def SpelledAlike (s d : DatabricksTable) : Prop :=
  s.catalog = d.catalog ∧ s.schemaName = d.schemaName ∧ s.table = d.table

/-- The key of the fence determines the workspace and the case-folded names. -/
theorem targetKey_eq_iff {lib : Library} {sha256 : Bytes → Bytes} (injective : Function.Injective sha256)
    {s d : DatabricksTable} : targetKey lib sha256 s = targetKey lib sha256 d ↔
      s.workspaceId = d.workspaceId ∧ lib.casefold s.catalog = lib.casefold d.catalog ∧
        lib.casefold s.schemaName = lib.casefold d.schemaName ∧
        lib.casefold s.table = lib.casefold d.table := by
  unfold targetKey
  rw [hexdigest_injective.eq_iff, injective.eq_iff, utf8_injective.eq_iff,
    JsonText.dumps_injective.eq_iff]
  simp

/-- Databricks locators overlap when they name one table, in one spelling. -/
theorem locatorsOverlap_databricks {provider : String} {s d : DatabricksTable} :
    locatorsOverlap provider (.databricksTable s) provider (.databricksTable d) = true ↔
      s.workspaceId = d.workspaceId ∧ SpelledAlike s d ∧ ¬ DifferentObjects s d := by
  simp only [locatorsOverlap, SpelledAlike, DifferentObjects, decide_true, Bool.true_and,
    Bool.and_eq_true, Bool.or_eq_true, decide_eq_true_iff]
  tauto

/-- A route between two locators of what the fence regards as one table is recognised as overlapping
exactly when the names are spelled alike. -/
theorem table_identities_agree_iff (lib : Library) {sha256 : Bytes → Bytes}
    (injective : Function.Injective sha256) {s d : DatabricksTable}
    (same : targetKey lib sha256 s = targetKey lib sha256 d) (ids : ¬ DifferentObjects s d) :
    locatorsOverlap "databricks" (.databricksTable s) "databricks" (.databricksTable d) = true ↔
      SpelledAlike s d := by
  rw [locatorsOverlap_databricks]
  have workspace := ((targetKey_eq_iff injective).1 same).1
  exact ⟨fun h => h.2.1, fun alike => ⟨workspace, alike, ids⟩⟩

def sampleWorkspace : String := String.ofList (List.replicate 64 'a')

/-- Without an object id, an overlap is recognised by the names. -/
theorem table_identities_agree_iff_orders :
    locatorsOverlap "databricks" (.databricksTable ⟨sampleWorkspace, "main", "sales", "orders", "", "", "", ""⟩)
      "databricks" (.databricksTable ⟨sampleWorkspace, "main", "sales", "orders", "1", "", "", ""⟩) = true :=
  (table_identities_agree_iff .sample (Function.injective_id (α := Bytes)) rfl (by decide)).2
    ⟨rfl, rfl, rfl⟩

/-- The fence has one key for two spellings of a table, and the route between them is not recognised as
overlapping. -/
theorem table_identities_differ : ¬ ∀ (lib : Library) (sha256 : Bytes → Bytes),
    Function.Injective sha256 → ∀ s d : DatabricksTable,
      targetKey lib sha256 s = targetKey lib sha256 d → ¬ DifferentObjects s d →
      locatorsOverlap "databricks" (.databricksTable s) "databricks" (.databricksTable d) = true := by
  intro claim
  have overlap := claim .sample id Function.injective_id
    ⟨sampleWorkspace, "main", "sales", "orders", "", "", "", ""⟩
    ⟨sampleWorkspace, "Main", "Sales", "Orders", "", "", "", ""⟩
    ((targetKey_eq_iff Function.injective_id).2 ⟨rfl, by decide, by decide, by decide⟩) (by decide)
  exact absurd overlap (by decide)

end DataMover
