import DataMover.Engine.Worker

/-!
# Upsert keys before and during a run

Three checks of the conflict columns of an upsert against the keys of its destination: that of the
readiness check and that of the PostgreSQL connector compare the columns as sets, that of the transfer
engine compares them with the keys as `inspect_object` lists them, in order.  They agree exactly when
columns that form a key are saved in the listed order.
-/

namespace DataMover

/-! ## Destination tables -/

/-- A PostgreSQL table: its columns in attribute order, its primary key and its unique constraints, each
with its columns in the order of the declaration. -/
structure PostgresTable where
  columns : List ColumnSchema
  primaryKey : List String
  uniqueConstraints : List (String × List String)
  primaryKey_columns : ∀ c ∈ primaryKey, c ∈ columns.map ColumnSchema.name
  constraint_columns : ∀ u ∈ uniqueConstraints, ∀ c ∈ u.2, c ∈ columns.map ColumnSchema.name
  constraint_ne_nil : ∀ u ∈ uniqueConstraints, u.2 ≠ []
  constraint_names : (uniqueConstraints.map Prod.fst).Nodup

/-- `PostgresUpsertPolicy`. -/
structure UpsertPolicy where
  conflictColumns : List String
  action : String
  ne_nil : conflictColumns ≠ []
  nodup : conflictColumns.Nodup

namespace PostgresTable

/-- The column names of `information_schema.columns`. -/
def names (t : PostgresTable) : List String := t.columns.map ColumnSchema.name

/-- The rows of the query for the primary key, `ORDER BY a.attnum`. -/
def primaryKeyRows (t : PostgresTable) : List String := t.names.filter (· ∈ t.primaryKey)

/-- The unique constraints, `ORDER BY tc.constraint_name`. -/
def sortedConstraints (t : PostgresTable) : List (String × List String) :=
  t.uniqueConstraints.insertionSort fun u v => u.1 ≤ v.1

/-- The rows of the query for the unique constraints. -/
def uniqueRows (t : PostgresTable) : List (String × String) :=
  t.sortedConstraints.flatMap fun u => u.2.map fun column => (u.1, column)

/-- `unique_columns.setdefault(constraint_name, []).append(column_name)`. -/
def appendColumn : List (String × List String) → String × String → List (String × List String)
  | [], (name, column) => [(name, [column])]
  | (n, columns) :: rest, (name, column) =>
    if n = name then (n, columns ++ [column]) :: rest
    else (n, columns) :: appendColumn rest (name, column)

/-- `unique_columns`. -/
def uniqueColumns (t : PostgresTable) : List (String × List String) :=
  t.uniqueRows.foldl appendColumn []

/-- The keys as the queries list them. -/
def listedKeys (t : PostgresTable) : List (List String) :=
  t.primaryKeyRows :: t.uniqueColumns.map Prod.snd

end PostgresTable

/-! ## The three checks -/

/-- A `ConnectorError` with its `field_errors`. -/
structure Refusal where
  error : ConnectorError
  fieldErrors : List (String × String) := []

/-- `PostgresConnector.inspect_object`. -/
def inspectObject (locator : Locator) (table : PostgresTable) : Except Refusal ObjectSchema :=
  if table.columns = [] then
    .error ⟨{ code := .sourceNotFound, summary := "That table was not found." }, []⟩
  else .ok {
    locator
    columns := table.columns
    primaryKey := table.primaryKeyRows
    uniqueConstraints := table.uniqueColumns.map Prod.snd }

/-- The refusal of a key that is no key of the destination. -/
def noUniqueKey : Refusal where
  error := {
    code := .destinationConflict
    summary := "The destination upsert key does not match a current unique constraint."
    retryable := false }
  fieldErrors := [("Write policy",
    "Choose conflict columns that match a destination primary or unique key.")]

/-- The refusal of a key with a column that is missing. -/
def missingKeyColumn (fieldErrors : List (String × String)) : Refusal where
  error := {
    code := .schemaDrift
    summary := "The destination upsert key includes a column missing from the current schema."
    retryable := false }
  fieldErrors

/-- `frozenset(keys) in {frozenset(items), ...}`. -/
def matchesKey (keys : List String) (uniqueKeys : List (List String)) : Prop :=
  ∃ key ∈ uniqueKeys, keys.toFinset = key.toFinset

instance (keys : List String) (uniqueKeys : List (List String)) : Decidable (matchesKey keys uniqueKeys) :=
  inferInstanceAs (Decidable (∃ key ∈ uniqueKeys, keys.toFinset = key.toFinset))

/-- The checks of an upsert key in `PostgresConnector.preflight_destination`. -/
def preflightUpsertKey (table : PostgresTable) (sourceSchema : ObjectSchema) (policy : UpsertPolicy) :
    Except Refusal Unit :=
  if sourceSchema.names = [] then .error ⟨{
    code := .schemaDrift
    summary := "The current source schema is unavailable for the selected upsert key."
    retryable := false }, []⟩
  else if ¬ ∀ column ∈ policy.conflictColumns, column ∈ sourceSchema.names ∧ column ∈ table.names then
    .error (missingKeyColumn
      [("Write policy", "Every upsert key column must exist in both current schemas.")])
  else if ¬ matchesKey policy.conflictColumns table.listedKeys then .error noUniqueKey
  else .ok ()

/-- `_validate_upsert_policy` of the PostgreSQL connector. -/
def connectorValidateUpsertPolicy (table : PostgresTable) (sourceSchema : ObjectSchema)
    (policy : UpsertPolicy) : Except Refusal Unit :=
  if ¬ ∀ column ∈ policy.conflictColumns, column ∈ sourceSchema.names ∧ column ∈ table.names then
    .error (missingKeyColumn [])
  else if ¬ matchesKey policy.conflictColumns table.listedKeys then .error noUniqueKey
  else .ok ()

/-! ## What the queries return -/

namespace PostgresTable

variable {t : PostgresTable} {keys : List String}

theorem appendColumn_new {groups : List (String × List String)} {name column : String}
    (new : name ∉ groups.map Prod.fst) :
    appendColumn groups (name, column) = groups ++ [(name, [column])] := by
  induction groups with
  | nil => rfl
  | cons g rest ih =>
    rw [List.map_cons, List.mem_cons, not_or] at new
    rw [appendColumn, if_neg (Ne.symm new.1), ih new.2]
    rfl

theorem appendColumn_last {groups : List (String × List String)} {name column : String}
    {columns : List String} (new : name ∉ groups.map Prod.fst) :
    appendColumn (groups ++ [(name, columns)]) (name, column) =
      groups ++ [(name, columns ++ [column])] := by
  induction groups with
  | nil => exact if_pos rfl
  | cons g rest ih =>
    rw [List.map_cons, List.mem_cons, not_or] at new
    rw [List.cons_append, appendColumn, if_neg (Ne.symm new.1), ih new.2]
    rfl

/-- The rows of one constraint are one group. -/
theorem foldl_appendColumn {groups : List (String × List String)} {name : String}
    {columns : List String} (new : name ∉ groups.map Prod.fst) (nonempty : columns ≠ []) :
    (columns.map fun column => (name, column)).foldl appendColumn groups =
      groups ++ [(name, columns)] := by
  have later : ∀ first rest : List String,
      (rest.map fun column => (name, column)).foldl appendColumn (groups ++ [(name, first)]) =
        groups ++ [(name, first ++ rest)] := by
    intro first rest
    induction rest generalizing first with
    | nil => simp
    | cons column rest ih =>
      rw [List.map_cons, List.foldl_cons, appendColumn_last new, ih]
      simp
  cases columns with
  | nil => exact absurd rfl nonempty
  | cons column rest =>
    rw [List.map_cons, List.foldl_cons, appendColumn_new new, later]
    rfl

/-- Grouping the rows gives the constraints back. -/
theorem uniqueColumns_eq : t.uniqueColumns = t.sortedConstraints := by
  have perm := List.perm_insertionSort (fun u v : String × List String => u.1 ≤ v.1) t.uniqueConstraints
  have names : (t.sortedConstraints.map Prod.fst).Nodup :=
    (perm.map Prod.fst).nodup_iff.2 t.constraint_names
  have nonempty : ∀ u ∈ t.sortedConstraints, u.2 ≠ [] := fun u hu =>
    t.constraint_ne_nil u (perm.mem_iff.1 hu)
  suffices grouped : ∀ rest groups : List (String × List String),
      ((groups ++ rest).map Prod.fst).Nodup → (∀ u ∈ rest, u.2 ≠ []) →
      (rest.flatMap fun u => u.2.map fun column => (u.1, column)).foldl appendColumn groups =
        groups ++ rest by
    exact grouped t.sortedConstraints [] names nonempty
  intro rest
  induction rest with
  | nil => intro groups _ _; simp
  | cons u rest ih =>
    intro groups nodup nonempty
    have new : u.1 ∉ groups.map Prod.fst := by
      rw [List.map_append, List.nodup_append] at nodup
      exact fun mem => nodup.2.2 _ mem _ (List.mem_map_of_mem List.mem_cons_self) rfl
    rw [List.flatMap_cons, List.foldl_append, foldl_appendColumn new (nonempty u List.mem_cons_self),
      ih (groups ++ [u]) (by simpa using nodup) fun v hv => nonempty v (List.mem_cons_of_mem _ hv)]
    simp

/-- The columns of a key are columns of the table. -/
theorem mem_names_of_matchesKey (h : matchesKey keys t.listedKeys) : ∀ c ∈ keys, c ∈ t.names := by
  obtain ⟨key, mem, same⟩ := h
  intro c hc
  have inKey : c ∈ key := List.mem_toFinset.1 (same ▸ List.mem_toFinset.2 hc)
  rcases List.mem_cons.1 mem with rfl | mem
  · exact (List.mem_filter.1 inKey).1
  · obtain ⟨u, hu, rfl⟩ := List.mem_map.1 mem
    rw [uniqueColumns_eq] at hu
    exact t.constraint_columns u ((List.perm_insertionSort _ _).mem_iff.1 hu) c inKey

end PostgresTable

/-! ## When the checks agree -/

section Agreement

variable {table : PostgresTable} {sourceSchema schema : ObjectSchema} {policy : UpsertPolicy}
  {locator : Locator} {j : Job} {d : Destination}

/-- The connector accepts columns of the source that form a key. -/
theorem connector_accepts_iff : connectorValidateUpsertPolicy table sourceSchema policy = .ok () ↔
    (∀ c ∈ policy.conflictColumns, c ∈ sourceSchema.names) ∧
      matchesKey policy.conflictColumns table.listedKeys := by
  unfold connectorValidateUpsertPolicy
  by_cases key : matchesKey policy.conflictColumns table.listedKeys
  · have inTable := PostgresTable.mem_names_of_matchesKey key
    by_cases inSource : ∀ c ∈ policy.conflictColumns, c ∈ sourceSchema.names
    · have both : ∀ c ∈ policy.conflictColumns, c ∈ sourceSchema.names ∧ c ∈ table.names :=
        fun c hc => ⟨inSource c hc, inTable c hc⟩
      rw [if_neg (not_not.2 both), if_neg (not_not.2 key)]
      exact ⟨fun _ => ⟨inSource, key⟩, fun _ => rfl⟩
    · rw [if_pos fun both => inSource fun c hc => (both c hc).1]
      exact ⟨nofun, fun h => absurd h.1 inSource⟩
  · rw [if_pos key]
    refine ⟨fun h => ?_, fun h => absurd h.2 key⟩
    split_ifs at h

/-- The readiness check accepts what the connector accepts. -/
theorem preflight_accepts_iff : preflightUpsertKey table sourceSchema policy = .ok () ↔
    connectorValidateUpsertPolicy table sourceSchema policy = .ok () := by
  unfold preflightUpsertKey
  by_cases noSource : sourceSchema.names = []
  · rw [if_pos noSource]
    refine ⟨nofun, fun h => ?_⟩
    obtain ⟨c, hc⟩ := List.exists_mem_of_ne_nil _ policy.ne_nil
    have mem := (connector_accepts_iff.1 h).1 c hc
    rw [noSource] at mem
    cases mem
  · rw [if_neg noSource]
    unfold connectorValidateUpsertPolicy
    split_ifs <;> simp

/-- The engine accepts columns of the source that are listed as a key. -/
theorem engine_accepts_iff
    (mode : j.snapshot.writePolicy.mode = .postgresUpsert policy.conflictColumns policy.action)
    (inspected : inspectObject locator table = .ok schema) :
    validateUpsertPolicy j d sourceSchema (some schema) = .pure (some schema) ↔
      (∀ c ∈ policy.conflictColumns, c ∈ sourceSchema.names) ∧
        policy.conflictColumns ∈ table.listedKeys := by
  have keys : schema.primaryKey :: schema.uniqueConstraints = table.listedKeys := by
    unfold inspectObject at inspected
    split_ifs at inspected
    cases inspected
    rfl
  have eligible : policy.conflictColumns ∈ table.listedKeys.filter (· ≠ []) ↔
      policy.conflictColumns ∈ table.listedKeys := by
    rw [List.mem_filter]
    exact and_iff_left (by simpa using policy.ne_nil)
  unfold validateUpsertPolicy
  rw [mode]
  change (if policy.conflictColumns ∉ (schema.primaryKey :: schema.uniqueConstraints).filter (· ≠ []) then
      _ else if ¬ ∀ c ∈ policy.conflictColumns, c ∈ sourceSchema.names then _ else _) = _ ↔ _
  rw [keys]
  by_cases listed : policy.conflictColumns ∈ table.listedKeys
  · rw [if_neg (not_not.2 (eligible.2 listed))]
    by_cases inSource : ∀ c ∈ policy.conflictColumns, c ∈ sourceSchema.names
    · rw [if_neg (not_not.2 inSource)]
      exact ⟨fun _ => ⟨inSource, listed⟩, fun _ => rfl⟩
    · rw [if_pos inSource]
      exact ⟨nofun, fun h => absurd h.1 inSource⟩
  · rw [if_pos fun mem => listed (eligible.1 mem)]
    exact ⟨nofun, fun h => absurd h.2 listed⟩

/-- Conflict columns of the source that form a key are saved in the order in which it is listed. -/
def SavedInListedOrder (table : PostgresTable) (sourceSchema : ObjectSchema) (policy : UpsertPolicy) :
    Prop :=
  (∀ c ∈ policy.conflictColumns, c ∈ sourceSchema.names) →
    matchesKey policy.conflictColumns table.listedKeys → policy.conflictColumns ∈ table.listedKeys

/-- Readiness and connector accept what the engine accepts, exactly when conflict columns that form a
key are saved in the order in which it is listed. -/
theorem upsert_keys_agree_iff
    (mode : j.snapshot.writePolicy.mode = .postgresUpsert policy.conflictColumns policy.action)
    (inspected : inspectObject locator table = .ok schema) :
    ((preflightUpsertKey table sourceSchema policy = .ok () ∧
        connectorValidateUpsertPolicy table sourceSchema policy = .ok ()) ↔
      validateUpsertPolicy j d sourceSchema (some schema) = .pure (some schema)) ↔
    SavedInListedOrder table sourceSchema policy := by
  rw [preflight_accepts_iff, and_self, connector_accepts_iff, engine_accepts_iff mode inspected]
  constructor
  · exact fun agree inSource key => (agree.1 ⟨inSource, key⟩).2
  · intro saved
    exact ⟨fun h => ⟨h.1, saved h.1 h.2⟩, fun h => ⟨h.1, _, h.2, rfl⟩⟩

end Agreement

/-! ## A composite key -/

/-- A table with a composite primary key. -/
def PostgresTable.sample : PostgresTable where
  columns := [{ name := "unit_name", dataType := "text" }, { name := "event_id", dataType := "bigint" }]
  primaryKey := ["event_id", "unit_name"]
  uniqueConstraints := []
  primaryKey_columns := by decide
  constraint_columns := nofun
  constraint_ne_nil := nofun
  constraint_names := List.nodup_nil

/-- The schema that is inspected. -/
def PostgresTable.sampleSchema : ObjectSchema where
  locator := .postgresTable "public" "events"
  columns := PostgresTable.sample.columns
  primaryKey := ["unit_name", "event_id"]

def UpsertPolicy.listed : UpsertPolicy := ⟨["unit_name", "event_id"], "update", by decide, by decide⟩

def UpsertPolicy.declared : UpsertPolicy := ⟨["event_id", "unit_name"], "update", by decide, by decide⟩

/-- The job of an upsert. -/
def UpsertPolicy.job (policy : UpsertPolicy) : Job :=
  WorkerEnv.sample.job .sample { DefinitionSnapshot.sample with
    writePolicy := ⟨.postgresUpsert policy.conflictColumns policy.action, [], List.nodup_nil⟩ }

def Destination.sample : Destination := ⟨{ capabilities := none }, {}⟩

/-- In the order of the attributes, the key is accepted before and during the run. -/
theorem upsert_keys_agree_iff_listed :
    (preflightUpsertKey .sample PostgresTable.sampleSchema .listed = .ok () ∧
      connectorValidateUpsertPolicy .sample PostgresTable.sampleSchema .listed = .ok ()) ↔
    validateUpsertPolicy UpsertPolicy.listed.job .sample PostgresTable.sampleSchema
      (some PostgresTable.sampleSchema) = .pure (some PostgresTable.sampleSchema) :=
  have inspected : inspectObject (.postgresTable "public" "events") .sample =
      .ok PostgresTable.sampleSchema := rfl
  (upsert_keys_agree_iff rfl inspected).2 fun _ _ => by decide

/-- In the order of the declaration, readiness and the connector accept the key and the engine does
not. -/
theorem upsert_keys_disagree : ¬ ∀ (table : PostgresTable) (sourceSchema schema : ObjectSchema)
    (policy : UpsertPolicy) (locator : Locator) (j : Job) (d : Destination),
    j.snapshot.writePolicy.mode = .postgresUpsert policy.conflictColumns policy.action →
    inspectObject locator table = .ok schema →
    ((preflightUpsertKey table sourceSchema policy = .ok () ∧
        connectorValidateUpsertPolicy table sourceSchema policy = .ok ()) ↔
      validateUpsertPolicy j d sourceSchema (some schema) = .pure (some schema)) := by
  intro claim
  have agree := claim .sample PostgresTable.sampleSchema PostgresTable.sampleSchema .declared
    (.postgresTable "public" "events") UpsertPolicy.declared.job .sample rfl rfl
  have accepted : connectorValidateUpsertPolicy .sample PostgresTable.sampleSchema .declared = .ok () :=
    rfl
  have refused := agree.1 ⟨rfl, accepted⟩
  cases refused

end DataMover
