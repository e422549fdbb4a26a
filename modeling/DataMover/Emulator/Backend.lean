import DataMover.Dict
import DataMover.Postgres.Constraints

/-!
# The emulated PostgreSQL

`_DemoBackend` keeps the tables of the emulated connections: frames with a primary key, unique constraints
and perhaps a generated column.  A load commits by appending to a table, by replacing it or by an upsert,
and each result is checked against the constraints of its table.  An upsert goes through Python rows, of
which Polars makes a frame again.
-/

namespace DataMover.Emulator

/-! ## Frames and tables -/

/-- The values of Polars frames: those the emulator makes, `int(value)`, the strict cast of a value to a
data type, and what `pl.DataFrame` does with the values of a column, of which it infers a data type that
has to hold each of them. -/
structure FrameValues (Value Dtype : Type) where
  int : Int → Value
  text : String → Value
  bool : Bool → Value
  float : String → Value
  int64 : Dtype
  string : Dtype
  boolean : Dtype
  float64 : Dtype
  toInt : Value → Int
  cast : Dtype → Value → Option Value
  infer : List (Option Value) → Dtype
  append : Dtype → Value → Option Value
  toInt_int : ∀ n, toInt (int n) = n

variable {Value Dtype : Type}

/-- A frame: the columns with their data types, and the rows. -/
structure DemoFrame (Value Dtype : Type) where
  schema : Dict String Dtype
  rows : List (Row Value)

namespace DemoFrame

variable (frame : DemoFrame Value Dtype)

def columns : List String := frame.schema.map Prod.fst

def height : Nat := frame.rows.length

/-- `frame.with_columns(pl.Series(name, values, dtype=dtype))`. -/
def withSeries (name : String) (dtype : Dtype) (values : Nat → Value) : DemoFrame Value Dtype where
  schema := frame.schema.set name dtype
  rows := frame.rows.mapIdx fun i row => Function.update row name (some (values i))

end DemoFrame

/-- `_DemoTable`. -/
structure DemoTable (Value Dtype : Type) where
  frame : DemoFrame Value Dtype
  primaryKey : List String := []
  uniqueConstraints : List (List String) := []
  identityColumn : String := ""

/-- `{table.primary_key, *table.unique_constraints} - {()}`. -/
def DemoTable.constraints (table : DemoTable Value Dtype) : List (List String) :=
  (table.primaryKey :: table.uniqueConstraints).filter (· ≠ [])

/-- A `ConnectorError` that is not retryable. -/
def refusal (code : TransferErrorCode) (summary : String) : Exn :=
  .connector { code, summary, retryable := false }

/-! ## Constraints -/

section Constraints

variable [DecidableEq Value]

/-- The loop of `_enforce_constraints` over the rows, with the values that were seen. -/
def enforceConstraint (primaryKey constraint : List String) :
    List (List (Option Value)) → List (Row Value) → Except Exn Unit
  | _, [] => .ok ()
  | seen, row :: rest =>
    if (constraint.map row).any Option.isNone then
      if constraint = primaryKey then
        .error (refusal .destinationConflict "A PostgreSQL primary-key value cannot be null.")
      else enforceConstraint primaryKey constraint seen rest
    else if constraint.map row ∈ seen then
      .error (refusal .destinationConflict
        "The destination write violates a PostgreSQL unique constraint.")
    else enforceConstraint primaryKey constraint (constraint.map row :: seen) rest

/-- `_enforce_constraints`. -/
def enforceConstraints (table : DemoTable Value Dtype) : Except Exn Unit :=
  table.constraints.forM fun constraint =>
    enforceConstraint table.primaryKey constraint [] table.frame.rows

end Constraints

/-! ## Coercion -/

section Coercion

variable (values : FrameValues Value Dtype)

/-- `next_id`. -/
def nextId (target : DemoTable Value Dtype) : Int :=
  match ((target.frame.rows.filterMap fun row => row target.identityColumn).map values.toInt).max? with
  | some latest => latest + 1
  | none => 1

/-- The identity column is generated. -/
def IdentityOmitted (incoming : DemoFrame Value Dtype) (target : DemoTable Value Dtype) : Prop :=
  target.identityColumn ≠ "" ∧ target.identityColumn ∉ incoming.columns

instance (incoming : DemoFrame Value Dtype) (target : DemoTable Value Dtype) :
    Decidable (IdentityOmitted incoming target) :=
  inferInstanceAs (Decidable (_ ∧ _))

/-- The incoming frame with the generated column. -/
def withIdentity (incoming : DemoFrame Value Dtype) (target : DemoTable Value Dtype) :
    DemoFrame Value Dtype :=
  if IdentityOmitted incoming target then
    incoming.withSeries target.identityColumn values.int64 fun i =>
      values.int (nextId values target + i)
  else incoming

/-- The strict cast to the data types of a schema. -/
def castTo (schema : Dict String Dtype) (column : String) (value : Value) : Option Value :=
  (schema.get column).bind fun dtype => values.cast dtype value

/-- `_coerce_for_table`. -/
def coerceForTable (incoming : DemoFrame Value Dtype) (target : DemoTable Value Dtype) :
    Except Exn (DemoFrame Value Dtype) :=
  let frame := withIdentity values incoming target
  if ∃ name ∈ frame.columns, name ∉ target.frame.columns then
    .error (refusal .schemaDrift
      "The source contains columns that are not present in the destination table.")
  else if ∃ name ∈ target.frame.columns, name ∉ frame.columns ∧ name ∈ target.primaryKey then
    .error (refusal .schemaDrift "The source omits a required destination column.")
  else
    -- a column that the source omits is filled with nulls
    match frame.rows.mapM fun row => Row.castRow (castTo values target.frame.schema)
        target.frame.columns fun c => if c ∈ frame.columns then row c else none with
    | none =>
      .error (refusal .unsupportedType
        "The source values are incompatible with the destination schema.")
    | some rows =>
      if ∃ name ∈ target.primaryKey, ∃ row ∈ rows, (row name).isNone then
        .error (refusal .schemaDrift
          "The source contains null values for a required destination key.")
      else .ok { schema := target.frame.schema, rows }

end Coercion

/-! ## Upserts -/

section Upserts

variable [DecidableEq Value]

/-- The variables of the loop of `_upsert`. -/
structure UpsertState (Value : Type) where
  rows : List (Row Value)
  index : Dict (List (Option Value)) Nat
  seenUpdates : List (List (Option Value)) := []
  loaded : Nat := 0

/-- The positions of the rows whose key has no null, by key. -/
def indexOf (conflict : List String) (rows : List (Row Value)) : Dict (List (Option Value)) Nat :=
  Dict.ofItems ((rows.zipIdx.filter fun e => (conflict.map e.1).all Option.isSome).map
    fun e => (conflict.map e.1, e.2))

/-- The body of the loop of `_upsert`. -/
def upsertRow (conflict : List String) (action : String) (preserveColumns : List String)
    (st : UpsertState Value) (incomingRow : Row Value) : Except Exn (UpsertState Value) :=
  let key := conflict.map incomingRow
  match (if key.all Option.isSome then st.index.get key else none) with
  | none => .ok { st with
      index := st.index.set key st.rows.length
      rows := st.rows ++ [incomingRow]
      loaded := st.loaded + 1 }
  | some position =>
    if action = "update" then
      if key ∈ st.seenUpdates then
        .error (refusal .destinationConflict
          "A PostgreSQL upsert batch contains the same key more than once.")
      else .ok { st with
        seenUpdates := key :: st.seenUpdates
        rows := st.rows.modify position fun row c =>
          if c ∈ preserveColumns then row c else incomingRow c
        loaded := st.loaded + 1 }
    else .ok st

section Frames

variable (values : FrameValues Value Dtype)

/-- `infer_schema_length` of `pl.DataFrame`, which has its default. -/
def inferSchemaLength : Nat := 100

/-- The data type that `pl.DataFrame(rows)` infers of the first values of a column. -/
def inferredType (rows : List (Row Value)) (column : String) : Dtype :=
  values.infer ((rows.take inferSchemaLength).map fun row => row column)

/-- `pl.DataFrame(rows).select(existing.columns).cast(existing.schema)`; `none` stands for a value that
does not fit into the inferred data type of its column, or that the cast refuses. -/
def frameOfRows (schema : Dict String Dtype) (rows : List (Row Value)) : Option (List (Row Value)) :=
  rows.mapM (Row.castRow (fun column value =>
    (values.append (inferredType values rows column) value).bind (castTo values schema column))
    (schema.map Prod.fst))

end Frames

/-- `_upsert`. -/
def upsert (values : FrameValues Value Dtype) (existing incoming : DemoFrame Value Dtype)
    (conflict : List String) (action : String) (preserveColumns : List String) :
    Except Exn (DemoFrame Value Dtype × Nat) := do
  let st ← incoming.rows.foldlM (upsertRow conflict action preserveColumns)
    { rows := existing.rows, index := indexOf conflict existing.rows }
  match frameOfRows values existing.schema st.rows with
  | some rows => return ({ schema := existing.schema, rows }, st.loaded)
  | none => .error (.other "PolarsError")

end Upserts

/-! ## Commits -/

/-- `_PendingLoad` of a PostgreSQL table: the columns of its schema with their types, the primary key of
the schema, and the frames that were written, all with these columns. -/
structure PendingLoad (Value Dtype : Type) where
  connectionId : String
  locator : String × String
  schema : Dict String Dtype
  primaryKey : List String := []
  mode : WriteMode
  frames : List (List (Row Value)) := []
  nodup : (schema.map Prod.fst).Nodup
  framed : ∀ frame ∈ frames, ∀ row ∈ frame, ∀ c ∉ schema.map Prod.fst, row c = none

/-- `pl.concat(pending.frames)`, or the empty frame of the schema. -/
def PendingLoad.incoming (pending : PendingLoad Value Dtype) : DemoFrame Value Dtype where
  schema := pending.schema
  rows := pending.frames.flatten

section Commits

variable [DecidableEq Value] (values : FrameValues Value Dtype)

/-- The result of a commit, if it satisfies its constraints. -/
def enforced (loaded : Nat) (result : DemoTable Value Dtype) :
    Except Exn (Nat × DemoTable Value Dtype) := do
  enforceConstraints result
  return (loaded, result)

/-- The table that `_new_postgres_table` makes of a frame, with the generated column or the key that was
chosen, or else the key of the schema. -/
def newTable (incoming : DemoFrame Value Dtype) (schemaKey primaryKeyColumns : List String)
    (autoIncrementPrimaryKey : String) : DemoTable Value Dtype where
  frame :=
    if autoIncrementPrimaryKey ≠ "" then
      incoming.withSeries autoIncrementPrimaryKey values.int64 fun i => values.int (i + 1)
    else incoming
  primaryKey :=
    if autoIncrementPrimaryKey ≠ "" then [autoIncrementPrimaryKey]
    else if primaryKeyColumns ≠ [] then primaryKeyColumns
    else schemaKey
  identityColumn := autoIncrementPrimaryKey

/-- `_new_postgres_table`, with the number of rows. -/
def newPostgresTable (incoming : DemoFrame Value Dtype) (schemaKey primaryKeyColumns : List String)
    (autoIncrementPrimaryKey : String) : Except Exn (Nat × DemoTable Value Dtype) :=
  let result := newTable values incoming schemaKey primaryKeyColumns autoIncrementPrimaryKey
  if autoIncrementPrimaryKey ≠ "" ∧ autoIncrementPrimaryKey ∈ incoming.columns then
    .error (refusal .schemaDrift
      "The generated primary-key name already exists in the source schema.")
  else if result.primaryKey ≠ [] ∧ ¬ result.primaryKey ⊆ result.frame.columns then
    .error (refusal .schemaDrift
      "The source primary key refers to columns that are missing from its schema.")
  else enforced incoming.height result

local instance lawfulColumns : LawfulBEq (List String) := inferInstance

/-- The upsert branch of `commit_postgres`. -/
def commitUpsert (target : DemoTable Value Dtype) (incoming : DemoFrame Value Dtype)
    (identityOmitted : Bool) (conflict : List String) (action : String) :
    Except Exn (Nat × DemoTable Value Dtype) :=
  if conflict ∉ target.constraints then
    .error (refusal .schemaDrift "The selected PostgreSQL upsert key is no longer unique.")
  else do
    enforceConstraints { target with frame := incoming, identityColumn := "" }
    let merged ← upsert values target.frame incoming conflict action
      (if identityOmitted then [target.identityColumn] else [])
    enforced merged.2 { target with frame := merged.1 }

/-- `commit_postgres`, from the table at the locator: the loaded rows, and the table that takes its
place. -/
def commitTable (current : Option (DemoTable Value Dtype)) (pending : PendingLoad Value Dtype) :
    Except Exn (Nat × DemoTable Value Dtype) :=
  match pending.mode, current with
  | .postgresAppend primaryKeyColumns autoIncrementPrimaryKey, none =>
    newPostgresTable values pending.incoming pending.primaryKey primaryKeyColumns
      autoIncrementPrimaryKey
  | .postgresAppend _ _, some target => do
    let incoming ← coerceForTable values pending.incoming target
    enforced incoming.height
      { target with frame := { target.frame with rows := target.frame.rows ++ incoming.rows } }
  | .postgresReplace _ primaryKeyColumns autoIncrementPrimaryKey, none =>
    newPostgresTable values pending.incoming pending.primaryKey primaryKeyColumns
      autoIncrementPrimaryKey
  | .postgresReplace schemaPolicy primaryKeyColumns autoIncrementPrimaryKey, some target =>
    if schemaPolicy = "recreate" then
      newPostgresTable values pending.incoming pending.primaryKey primaryKeyColumns
        autoIncrementPrimaryKey
    else do
      let incoming ← coerceForTable values pending.incoming target
      enforced incoming.height { target with frame := incoming }
  | .postgresUpsert _ _, none =>
    .error (refusal .destinationConflict
      "PostgreSQL upsert requires an existing unique destination key.")
  | .postgresUpsert conflict action, some target => do
    let incoming ← coerceForTable values pending.incoming target
    commitUpsert values target incoming (IdentityOmitted pending.incoming target) conflict action
  | _, _ => .error (refusal .unsupportedType "The PostgreSQL write policy is unsupported.")

end Commits

end DataMover.Emulator
