import DataMover.Emulator.Backend

/-!
# The tables of the emulated PostgreSQL

Whatever loads commit, each table of the emulator satisfies its constraints, has rows of its columns, and
has a generated column only as its primary key, without unique constraints.
-/

namespace DataMover.Emulator

variable {Value Dtype : Type} [DecidableEq Value]

/-! ## Constraints -/

/-- The constraint of a key: no null in a primary key, and no two rows with the same values. -/
theorem enforceConstraint_ok {primaryKey constraint : List String} {seen : List (List (Option Value))}
    {rows : List (Row Value)} :
    enforceConstraint primaryKey constraint seen rows = .ok () ↔
      (constraint = primaryKey → ∀ row ∈ rows, Row.Complete constraint row) ∧
        (∀ row ∈ rows, Row.Complete constraint row → constraint.map row ∉ seen) ∧
        rows.Pairwise fun a b => ¬ Row.Shares constraint a b := by
  induction rows generalizing seen with
  | nil => simp [enforceConstraint]
  | cons row rest ih =>
    have complete : (constraint.map row).any Option.isNone = true ↔ ¬ Row.Complete constraint row := by
      simp [Row.Complete, List.any_eq_true]
    rw [enforceConstraint, List.pairwise_cons]
    simp only [List.forall_mem_cons]
    by_cases null : (constraint.map row).any Option.isNone = true
    · have incomplete := complete.1 null
      rw [if_pos null]
      by_cases primary : constraint = primaryKey
      · rw [if_pos primary]
        simp [primary, primary ▸ incomplete]
      · rw [if_neg primary, ih]
        have unshared : ∀ b ∈ rest, ¬ Row.Shares constraint row b := fun b _ h => incomplete h.1
        simp only [primary, incomplete, IsEmpty.forall_iff, true_and, and_iff_right unshared]
    · have whole : Row.Complete constraint row := not_not.1 (mt complete.2 null)
      rw [if_neg null]
      by_cases known : constraint.map row ∈ seen
      · rw [if_pos known]
        simp [whole, known]
      · have shared (b : Row Value) (hb : Row.Complete constraint b) :
            constraint.map b = constraint.map row ↔ Row.Shares constraint row b := by
          rw [Row.shares_iff_map, and_iff_right whole, eq_comm]
        rw [if_neg known, ih]
        simp only [whole, true_and, known, not_false_eq_true, forall_const, List.mem_cons, not_or]
        constructor
        · rintro ⟨primary, new, apart⟩
          refine ⟨primary, fun b hb whole => (new b hb whole).2, fun b hb shares => ?_, apart⟩
          exact (new b hb shares.symm.1).1 ((shared b shares.symm.1).2 shares)
        · rintro ⟨primary, new, first, apart⟩
          exact ⟨primary, fun b hb whole =>
            ⟨fun same => first b hb ((shared b whole).1 same), new b hb whole⟩, apart⟩

theorem forM_ok {ε α : Type} {f : α → Except ε Unit} {l : List α} :
    l.forM f = .ok () ↔ ∀ a ∈ l, f a = .ok () := by
  induction l with
  | nil => simp [pure, Except.pure]
  | cons a rest ih =>
    rw [List.forall_mem_cons, ← ih]
    exact bind_eq_ok.trans ⟨fun ⟨_, first, others⟩ => ⟨first, others⟩,
      fun ⟨first, others⟩ => ⟨(), first, others⟩⟩

/-- **The check of a table**: its primary key is never null, and its rows satisfy its constraints. -/
theorem enforceConstraints_ok {table : DemoTable Value Dtype} :
    enforceConstraints table = .ok () ↔
      (∀ row ∈ table.frame.rows, Row.Complete table.primaryKey row) ∧
        Row.Satisfy table.constraints table.frame.rows := by
  have pairs : Row.Satisfy table.constraints table.frame.rows ↔ ∀ constraint ∈ table.constraints,
      table.frame.rows.Pairwise fun a b => ¬ Row.Shares constraint a b := by
    unfold Row.Satisfy
    simp only [List.pairwise_iff_getElem, Row.Clash, not_exists, not_and]
    exact ⟨fun h constraint mem i j hi hj lt => h i j hi hj lt constraint mem,
      fun h i j hi hj lt constraint mem => h constraint mem i j hi hj lt⟩
  rw [enforceConstraints, forM_ok, pairs]
  simp only [enforceConstraint_ok, List.not_mem_nil, not_false_eq_true, implies_true, true_and]
  constructor
  · intro h
    refine ⟨fun row mem => ?_, fun constraint hc => (h constraint hc).2⟩
    by_cases keyless : table.primaryKey = []
    · rw [keyless]
      exact fun c hc => absurd hc List.not_mem_nil
    · have listed : table.primaryKey ∈ table.constraints :=
        List.mem_filter.2 ⟨List.mem_cons_self, decide_eq_true keyless⟩
      exact (h _ listed).1 rfl row mem
  · exact fun ⟨primary, apart⟩ constraint hc => ⟨fun same => same ▸ primary, apart constraint hc⟩

/-! ## Sound tables -/

/-- What holds of each table of the emulator. -/
structure DemoTable.Sound (table : DemoTable Value Dtype) : Prop where
  nodup : table.frame.columns.Nodup
  framed : ∀ row ∈ table.frame.rows, ∀ c ∉ table.frame.columns, row c = none
  keyed : ∀ constraint ∈ table.constraints, constraint ⊆ table.frame.columns
  enforced : enforceConstraints table = .ok ()
  /-- A generated column is the primary key, and the only constraint. -/
  identity : table.identityColumn ≠ "" →
    table.primaryKey = [table.identityColumn] ∧ table.uniqueConstraints = []

/-- A table with other rows that are checked is sound again. -/
theorem DemoTable.Sound.replace {table : DemoTable Value Dtype} (sound : table.Sound)
    {frame : DemoFrame Value Dtype} (schema : frame.schema = table.frame.schema)
    (framed : ∀ row ∈ frame.rows, ∀ c ∉ table.frame.columns, row c = none)
    (enforced : enforceConstraints { table with frame } = .ok ()) : ({ table with frame }).Sound where
  nodup := by
    rw [DemoFrame.columns, schema]
    exact sound.nodup
  framed row mem c hc := framed row mem c (by rwa [DemoFrame.columns, schema] at hc)
  keyed constraint mem := by
    rw [DemoFrame.columns, schema]
    exact sound.keyed constraint mem
  enforced
  identity := sound.identity

/-! ## Loads -/

section Loads

variable (values : FrameValues Value Dtype)

variable {values}

omit [DecidableEq Value] in
theorem columns_withSeries {frame : DemoFrame Value Dtype} {name c : String} {dtype : Dtype}
    {series : Nat → Value} :
    c ∈ (frame.withSeries name dtype series).columns ↔ c ∈ frame.columns ∨ c = name :=
  Dict.mem_keys_set

omit [DecidableEq Value] in
theorem framed_withSeries {frame : DemoFrame Value Dtype} {name : String} {dtype : Dtype}
    {series : Nat → Value} (framed : ∀ row ∈ frame.rows, ∀ c ∉ frame.columns, row c = none) :
    ∀ row ∈ (frame.withSeries name dtype series).rows,
      ∀ c ∉ (frame.withSeries name dtype series).columns, row c = none := by
  intro row mem c hc
  obtain ⟨unlisted, other⟩ := not_or.1 (mt columns_withSeries.2 hc)
  obtain ⟨i, hi, rfl⟩ := List.mem_mapIdx.1 mem
  rw [Function.update_of_ne other]
  exact framed _ (List.getElem_mem hi) c unlisted

/-- What passes the final check is a checked table. -/
theorem enforced_ok {loaded : Nat} {result : DemoTable Value Dtype} {r : Nat × DemoTable Value Dtype} :
    enforced loaded result = .ok r ↔ enforceConstraints result = .ok () ∧ r = (loaded, result) := by
  rw [enforced, bind_eq_ok]
  constructor
  · rintro ⟨_, checked, same⟩
    exact ⟨checked, (Except.ok.inj same).symm⟩
  · rintro ⟨checked, rfl⟩
    exact ⟨(), checked, rfl⟩

/-- A new table is sound. -/
theorem sound_newPostgresTable {incoming : DemoFrame Value Dtype} {schemaKey listed : List String}
    {identity : String} {r : Nat × DemoTable Value Dtype} (nodup : incoming.columns.Nodup)
    (framed : ∀ row ∈ incoming.rows, ∀ c ∉ incoming.columns, row c = none)
    (h : newPostgresTable values incoming schemaKey listed identity = .ok r) : r.2.Sound := by
  unfold newPostgresTable at h
  dsimp only at h
  split_ifs at h with taken missing
  obtain ⟨enforced, rfl⟩ := enforced_ok.1 h
  refine ⟨?_, ?_, fun constraint mem => ?_, enforced, fun generated => ⟨if_pos generated, rfl⟩⟩
  · unfold newTable
    dsimp only
    split_ifs
    · exact Dict.nodup_set nodup _ _
    · exact nodup
  · unfold newTable
    dsimp only
    split_ifs
    · exact framed_withSeries framed
    · exact framed
  · obtain ⟨listed, ne⟩ := List.mem_filter.1 mem
    obtain rfl := List.mem_singleton.1 listed
    by_contra outside
    exact missing ⟨of_decide_eq_true ne, outside⟩

omit [DecidableEq Value] in
/-- What the coercion makes of a frame. -/
theorem coerceForTable_ok {incoming frame : DemoFrame Value Dtype} {target : DemoTable Value Dtype}
    (h : coerceForTable values incoming target = .ok frame) :
    frame.schema = target.frame.schema ∧
      (∀ row ∈ frame.rows, ∀ c ∉ target.frame.columns, row c = none) := by
  unfold coerceForTable at h
  dsimp only at h
  split_ifs at h
  split at h
  · cases h
  · rename_i rows converted
    split_ifs at h
    cases h
    refine ⟨rfl, fun row mem c hc => ?_⟩
    obtain ⟨source, -, cast⟩ := Paging.exists_of_mem_mapM converted mem
    exact Row.castRow_null cast hc

omit [DecidableEq Value] in
/-- The frame of some rows has values in its columns only. -/
theorem framed_frameOfRows {schema : Dict String Dtype} {rows frame : List (Row Value)}
    (h : frameOfRows values schema rows = some frame) :
    ∀ row ∈ frame, ∀ c ∉ schema.map Prod.fst, row c = none := by
  intro row mem c hc
  obtain ⟨source, -, cast⟩ := Paging.exists_of_mem_mapM h mem
  exact Row.castRow_null cast hc

/-- What an upsert returns is a frame of the schema of the table. -/
theorem framed_upsert {existing incoming frame : DemoFrame Value Dtype} {conflict preserve : List String}
    {action : String} {loaded : Nat}
    (h : upsert values existing incoming conflict action preserve = .ok (frame, loaded)) :
    frame.schema = existing.schema ∧ ∀ row ∈ frame.rows, ∀ c ∉ existing.columns, row c = none := by
  obtain ⟨st, -, built⟩ := bind_eq_ok.1 h
  split at built
  · rename_i rows made
    cases built
    exact ⟨rfl, framed_frameOfRows made⟩
  · cases built

theorem commitUpsert_ok {target : DemoTable Value Dtype} {incoming : DemoFrame Value Dtype}
    {omitted : Bool} {conflict : List String} {action : String} {r : Nat × DemoTable Value Dtype}
    (h : commitUpsert values target incoming omitted conflict action = .ok r) :
    ∃ frame loaded, upsert values target.frame incoming conflict action
        (if omitted then [target.identityColumn] else []) = .ok (frame, loaded) ∧
      enforceConstraints { target with frame } = .ok () ∧ r = (loaded, { target with frame }) := by
  unfold commitUpsert at h
  by_cases unknown : conflict ∉ target.constraints
  · rw [if_pos unknown] at h
    cases h
  · rw [if_neg unknown] at h
    obtain ⟨_, -, h⟩ := bind_eq_ok.1 h
    obtain ⟨⟨frame, loaded⟩, upserted, h⟩ := bind_eq_ok.1 h
    obtain ⟨checked, rfl⟩ := enforced_ok.1 h
    exact ⟨frame, loaded, upserted, checked, rfl⟩

/-- **A commit leaves a sound table.** -/
theorem sound_commitTable {current : Option (DemoTable Value Dtype)} {pending : PendingLoad Value Dtype}
    {r : Nat × DemoTable Value Dtype} (sound : ∀ table, current = some table → table.Sound)
    (h : commitTable values current pending = .ok r) : r.2.Sound := by
  have framed : ∀ row ∈ pending.incoming.rows, ∀ c ∉ pending.incoming.columns, row c = none := by
    intro row mem
    obtain ⟨frame, hf, mem⟩ := List.mem_flatten.1 mem
    exact pending.framed frame hf row mem
  have nodup : pending.incoming.columns.Nodup := pending.nodup
  rcases current with _ | target
  · cases mode : pending.mode <;> simp only [commitTable, mode] at h
    case postgresAppend => exact sound_newPostgresTable nodup framed h
    case postgresReplace => exact sound_newPostgresTable nodup framed h
    all_goals cases h
  · have sound := sound target rfl
    cases mode : pending.mode <;> simp only [commitTable, mode] at h
    case postgresAppend =>
      obtain ⟨incoming, coerced, h⟩ := bind_eq_ok.1 h
      obtain ⟨enforced, rfl⟩ := enforced_ok.1 h
      refine sound.replace rfl (fun row mem => ?_) enforced
      rcases List.mem_append.1 mem with mem | mem
      · exact sound.framed row mem
      · exact (coerceForTable_ok coerced).2 row mem
    case postgresReplace =>
      split_ifs at h
      · exact sound_newPostgresTable nodup framed h
      · obtain ⟨incoming, coerced, h⟩ := bind_eq_ok.1 h
        obtain ⟨enforced, rfl⟩ := enforced_ok.1 h
        obtain ⟨schema, framed⟩ := coerceForTable_ok coerced
        exact sound.replace schema framed enforced
    case postgresUpsert =>
      obtain ⟨incoming, -, h⟩ := bind_eq_ok.1 h
      obtain ⟨frame, loaded, upserted, enforced, rfl⟩ := commitUpsert_ok h
      obtain ⟨schema, framed⟩ := framed_upsert upserted
      exact sound.replace schema framed enforced
    all_goals cases h

end Loads

/-! ## Runs -/

section Runs

variable (values : FrameValues Value Dtype)

omit [DecidableEq Value] in
/-- A row of `_demo_frame`. -/
def demoRow (eventId : Int) (unitName : String) (ready : Bool) (score : String) : Row Value
  | "event_id" => some (values.int eventId)
  | "unit_name" => some (values.text unitName)
  | "ready" => some (values.bool ready)
  | "score" => some (values.float score)
  | _ => none

/-- `_demo_frame`. -/
def demoFrame : DemoFrame Value Dtype where
  schema := [("event_id", values.int64), ("unit_name", values.string), ("ready", values.boolean),
    ("score", values.float64)]
  rows := [demoRow values 1 "Unit-1" true "98.4", demoRow values 2 "Unit-2" false "82.0",
    demoRow values 3 "Unit-3" true "91.2"]

/-- `POSTGRES_SCHEMAS`. -/
def postgresSchemas : List (String × List String) := [
  ("public", ["readiness_events", "asset_inventory", "mission_orders"]),
  ("staging", ["readiness_events_stage", "raw_events", "ingest_failures"]),
  ("reporting", ["daily_readiness", "asset_utilization", "mission_throughput"])]

/-- The tables of a connection, by schema and name. -/
abbrev DemoTables (Value Dtype : Type) := Dict (String × String) (DemoTable Value Dtype)

/-- The tables that a connection starts with. -/
def demoTables : DemoTables Value Dtype :=
  postgresSchemas.flatMap fun (schemaName, names) => names.map fun table =>
    ((schemaName, table), {
      frame :=
        if (schemaName, table) = ("public", "mission_orders") then { demoFrame values with rows := [] }
        else demoFrame values
      primaryKey := ["event_id"]
      uniqueConstraints := [["event_id"]] })

/-- `_DemoBackend._postgres`: the tables of each connection that was used. -/
abbrev DemoBackend (Value Dtype : Type) := Dict String (DemoTables Value Dtype)

/-- `_postgres_for`. -/
def postgresFor (backend : DemoBackend Value Dtype) (connectionId : String) : DemoTables Value Dtype :=
  (backend.get connectionId).getD (demoTables values)

/-- `commit_postgres`: a load that fails leaves the tables as they are. -/
def commitPostgres (backend : DemoBackend Value Dtype) (pending : PendingLoad Value Dtype) :
    DemoBackend Value Dtype :=
  let tables := postgresFor values backend pending.connectionId
  match commitTable values (tables.get pending.locator) pending with
  | .ok (_, result) => backend.set pending.connectionId (tables.set pending.locator result)
  | .error _ => backend.set pending.connectionId tables

/-- The table at the locator of a load after it: a load that fails leaves the table as it was. -/
def tableAfter (current : Option (DemoTable Value Dtype)) (pending : PendingLoad Value Dtype) :
    Option (DemoTable Value Dtype) :=
  match commitTable values current pending with
  | .ok (_, result) => some result
  | .error _ => current

/-- The emulator after some loads. -/
def backendAfter (loads : List (PendingLoad Value Dtype)) : DemoBackend Value Dtype :=
  loads.foldl (commitPostgres values) []

variable {values}

omit [DecidableEq Value] in
theorem columns_demoFrame :
    (demoFrame values).columns = ["event_id", "unit_name", "ready", "score"] := rfl

omit [DecidableEq Value] in
theorem framed_demoRow {eventId : Int} {unitName score c : String} {ready : Bool}
    (hc : c ∉ (demoFrame values).columns) : demoRow values eventId unitName ready score c = none := by
  rw [columns_demoFrame] at hc
  unfold demoRow
  split
  all_goals first | rfl | exact absurd (by decide) hc

theorem sound_demoTables {key : String × String} {table : DemoTable Value Dtype}
    (mem : (key, table) ∈ demoTables values) : table.Sound := by
  obtain ⟨⟨schemaName, names⟩, -, mem⟩ := List.mem_flatMap.1 mem
  obtain ⟨name, -, same⟩ := List.mem_map.1 mem
  cases same
  have columns : (if (schemaName, name) = ("public", "mission_orders") then
      { demoFrame values with rows := [] } else demoFrame values).columns =
        (demoFrame values).columns := by
    split_ifs <;> rfl
  have rows : (if (schemaName, name) = ("public", "mission_orders") then
      { demoFrame values with rows := [] } else demoFrame values).rows.Sublist
        (demoFrame values).rows := by
    split_ifs
    · exact List.nil_sublist _
    · exact List.Sublist.refl _
  have apart (i j : Int) (ne : i ≠ j) (u v x y : String) (p q : Bool) :
      ¬ Row.Clash [["event_id"], ["event_id"]] (demoRow values i u p x) (demoRow values j v q y) := by
    rintro ⟨constraint, mem, shares⟩
    have key : constraint = ["event_id"] := by simpa using mem
    have same := shares.2 "event_id" (key ▸ List.mem_singleton.2 rfl)
    have same : values.int i = values.int j := Option.some.inj same
    exact ne (by rw [← values.toInt_int i, same, values.toInt_int])
  refine ⟨?_, fun row mem c hc => ?_, fun constraint mem => ?_, enforceConstraints_ok.2 ⟨?_, ?_⟩,
    fun generated => absurd rfl generated⟩
  · rw [columns, columns_demoFrame]
    decide
  · rw [columns] at hc
    have mem := rows.subset mem
    simp only [demoFrame, List.mem_cons, List.not_mem_nil, or_false] at mem
    rcases mem with rfl | rfl | rfl
    all_goals exact framed_demoRow hc
  · rw [columns]
    have key : constraint = ["event_id"] := by simpa [DemoTable.constraints] using mem
    rw [key]
    exact fun c hc => List.mem_singleton.1 hc ▸ List.mem_cons_self
  · intro row mem c hc
    have mem := rows.subset mem
    simp only [demoFrame, List.mem_cons, List.not_mem_nil, or_false] at mem
    rw [List.mem_singleton.1 hc]
    rcases mem with rfl | rfl | rfl
    all_goals exact Option.some_ne_none _
  · refine List.Pairwise.sublist rows (?_ : Row.Satisfy [["event_id"], ["event_id"]] _)
    simp only [demoFrame, Row.Satisfy, List.pairwise_cons, List.mem_cons, List.not_mem_nil, or_false,
      forall_eq_or_imp, forall_eq, IsEmpty.forall_iff, implies_true, and_true, List.Pairwise.nil]
    exact ⟨⟨apart 1 2 (by decide) _ _ _ _ _ _, apart 1 3 (by decide) _ _ _ _ _ _⟩,
      apart 2 3 (by decide) _ _ _ _ _ _⟩

/-- A load changes the table at its locator only. -/
theorem get_commitPostgres (backend : DemoBackend Value Dtype) (pending : PendingLoad Value Dtype)
    (connectionId : String) (key : String × String) :
    (postgresFor values (commitPostgres values backend pending) connectionId).get key =
      if connectionId = pending.connectionId ∧ key = pending.locator then
        tableAfter values ((postgresFor values backend connectionId).get key) pending
      else (postgresFor values backend connectionId).get key := by
  unfold commitPostgres tableAfter
  dsimp only
  by_cases here : connectionId = pending.connectionId
  · subst here
    by_cases there : key = pending.locator
    · subst there
      rw [if_pos ⟨rfl, rfl⟩]
      split
      · rw [postgresFor, Dict.get_set, if_pos rfl, Option.getD_some, Dict.get_set, if_pos rfl]
      · rw [postgresFor, Dict.get_set, if_pos rfl, Option.getD_some]
    · rw [if_neg fun h => there h.2]
      split
      · rw [postgresFor, Dict.get_set, if_pos rfl, Option.getD_some, Dict.get_set, if_neg there]
      · rw [postgresFor, Dict.get_set, if_pos rfl, Option.getD_some]
  · rw [if_neg fun h => here h.1]
    split
    all_goals rw [postgresFor, Dict.get_set, if_neg here, ← postgresFor]

theorem sound_commitPostgres {backend : DemoBackend Value Dtype} {pending : PendingLoad Value Dtype}
    (sound : ∀ connectionId key table,
      (postgresFor values backend connectionId).get key = some table → table.Sound)
    {connectionId : String} {key : String × String} {table : DemoTable Value Dtype}
    (found : (postgresFor values (commitPostgres values backend pending) connectionId).get key =
      some table) : table.Sound := by
  rw [get_commitPostgres] at found
  split_ifs at found
  · unfold tableAfter at found
    split at found
    · rename_i loaded result committed
      cases found
      exact sound_commitTable (fun table found => sound _ _ table found) committed
    · exact sound connectionId key table found
  · exact sound connectionId key table found

/-- Whatever loads were committed or refused before, the tables of the emulator are sound; a load that is
committed replaces the table at its locator, and nothing else changes a table. -/
theorem emulated_tables_are_sound (loads : List (PendingLoad Value Dtype)) :
    (∀ connectionId key table,
      (postgresFor values (backendAfter values loads) connectionId).get key = some table →
        table.Sound) ∧
    ∀ (pending : PendingLoad Value Dtype) (connectionId : String) (key : String × String),
      (postgresFor values (backendAfter values (loads ++ [pending])) connectionId).get key =
        if connectionId = pending.connectionId ∧ key = pending.locator then
          tableAfter values ((postgresFor values (backendAfter values loads) connectionId).get key)
            pending
        else (postgresFor values (backendAfter values loads) connectionId).get key := by
  constructor
  · induction loads using List.reverseRecOn with
    | nil => exact fun connectionId key table found => sound_demoTables (Dict.mem_of_get found)
    | append_singleton before pending ih =>
      intro connectionId key table found
      rw [backendAfter, List.foldl_append] at found
      exact sound_commitPostgres ih found
  · intro pending connectionId key
    rw [backendAfter, List.foldl_append]
    exact get_commitPostgres (backendAfter values loads) pending connectionId key

end Runs

/-! ## Events of the demo -/

/-- Values of the types of the demo; a float is kept as it is printed. -/
inductive DemoValue where
  | int (n : Int)
  | text (s : String)
  | bool (b : Bool)
  | float (shown : String)

namespace DemoValue

def dtype : DemoValue → String
  | int _ => "Int64"
  | text _ => "String"
  | bool _ => "Boolean"
  | float _ => "Float64"

/-- A value in the order of its type. -/
def code : DemoValue → String ×ₗ Int ×ₗ String
  | v@(int n) => toLex (v.dtype, toLex (n, ""))
  | v@(text s) => toLex (v.dtype, toLex (0, s))
  | v@(bool b) => toLex (v.dtype, toLex (b.toNat, ""))
  | v@(float shown) => toLex (v.dtype, toLex (0, shown))

theorem code_injective : Function.Injective code := by
  intro a b same
  cases a <;> cases b <;> simp_all [code, dtype]
  rename_i p q
  cases p <;> cases q <;> first | rfl | cases same

instance : LinearOrder DemoValue := .lift' code code_injective

/-- The value, if it has a data type. -/
def ofType (dtype : String) (v : DemoValue) : Option DemoValue :=
  if v.dtype = dtype then some v else none

end DemoValue

/-- The data type of a column is the one of its first value. -/
def demoValues : FrameValues DemoValue String where
  int := .int
  text := .text
  bool := .bool
  float := .float
  int64 := "Int64"
  string := "String"
  boolean := "Boolean"
  float64 := "Float64"
  toInt
    | .int n => n
    | _ => 0
  cast := DemoValue.ofType
  infer vs := ((vs.filterMap id).head?.map DemoValue.dtype).getD "Null"
  append := DemoValue.ofType
  toInt_int _ := rfl

/-- A value after a hundred nulls. -/
example : (frameOfRows demoValues [("score", "Float64")]
    (List.replicate 100 (fun _ => none) ++ [fun _ => some (.float "90.0")])).isNone = true := rfl

/-- An update-upsert of ready units, by event, with one score. -/
def readyUnits (units : List (Int × String)) : PendingLoad DemoValue String where
  connectionId := "demo"
  locator := ("public", "readiness_events")
  schema := (demoFrame demoValues).schema
  mode := .postgresUpsert ["event_id"] "update"
  frames := [units.map fun e => demoRow demoValues e.1 e.2 true "90.0"]
  nodup := by decide
  framed frame hf row mem c hc := by
    rw [List.mem_singleton.1 hf] at mem
    obtain ⟨e, -, rfl⟩ := List.mem_map.1 mem
    exact framed_demoRow hc

/-- Two rows of one new event. -/
def twice : List (Int × String) := [(4, "Unit-4"), (4, "Unit-5")]

/-- The last event again, and a new one. -/
def fresh : List (Int × String) := [(3, "Unit-7"), (4, "Unit-4")]

/-- The events of the demo after some loads. -/
def eventsAfter (loads : List (PendingLoad DemoValue String)) : Option (DemoTable DemoValue String) :=
  (postgresFor demoValues (backendAfter demoValues loads) "demo").get ("public", "readiness_events")

/-- One load is committed, and the next one is refused. -/
theorem emulated_tables_are_sound_fresh : ∃ table, eventsAfter [readyUnits fresh] = some table ∧
    table.frame.height = 4 ∧ table.Sound ∧
    eventsAfter [readyUnits fresh, readyUnits twice] = some table := by
  have rows : (eventsAfter [readyUnits fresh]).map (fun table => table.frame.height) = some 4 := by
    decide +kernel
  have refused : (commitTable demoValues (eventsAfter [readyUnits fresh]) (readyUnits twice)).isOk =
      false := by decide +kernel
  obtain ⟨table, found, height⟩ := Option.map_eq_some_iff.1 rows
  obtain ⟨sound, next⟩ := @emulated_tables_are_sound _ _ _ demoValues [readyUnits fresh]
  refine ⟨table, found, height, sound _ _ table found, (next (readyUnits twice) _ _).trans ?_⟩
  have kept : tableAfter demoValues (eventsAfter [readyUnits fresh]) (readyUnits twice) =
      eventsAfter [readyUnits fresh] := by
    unfold tableAfter
    split
    · rename_i committed
      rw [committed] at refused
      cases refused
    · rfl
  exact (if_pos ⟨rfl, rfl⟩).trans (kept.trans found)

end DataMover.Emulator
