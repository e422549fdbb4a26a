import DataMover.Engine.Frame

/-!
# Column casts

`column_casting.py`: the casts that a user selected for the columns of a route, applied to the schema
and to every batch.  A cast changes the values of its own column only, and never which rows are null.
-/

namespace DataMover

/-- A `ConnectorError` for a source that does not match its route. -/
def schemaDrift (summary : String) : Exn :=
  .connector { code := .schemaDrift, summary, retryable := false }

/-- `apply_column_type_overrides_to_schema`. -/
def applyColumnTypeOverridesToSchema (schema : ObjectSchema)
    (overrides : List (String × ColumnType)) : Except Exn ObjectSchema :=
  if overrides.isEmpty then .ok schema
  else if ∃ e ∈ overrides, e.1 ∉ schema.names then
    .error (schemaDrift "A saved cast refers to a source column that is no longer available.")
  else .ok { schema with
    columns := schema.columns.map fun column =>
      match overrides.lookup column.name with
      | some selected => { column with dataType := selected.dataType }
      | none => column
    removedColumns := [] }

namespace Casting

/-! ## Decimal types -/

/-- `Decimal(int(value)) if isinstance(value, bool) else Decimal(str(value))`. -/
def decimalOf (lib : Library) : Cell → Option PyDecimal
  | .bool b => some (.finite false (if b then 1 else 0) 0)
  | value => lib.decimal value

/-- `number.adjusted() + 1` of a finite, non-zero number. -/
def integerDigits (coefficient : Nat) (exponent : Int) : Nat :=
  (exponent + (Nat.digits 10 coefficient).length).toNat

/-- The scale and the integer digits that the values need so far; `none` when one is no finite number. -/
def decimalShape (lib : Library) : Nat → Nat → List Cell → Option (Nat × Nat)
  | scale, digits, [] => some (scale, digits)
  | scale, digits, .null :: rest => decimalShape lib scale digits rest
  | scale, digits, value :: rest =>
    match decimalOf lib value with
    | some (.finite _ coefficient exponent) =>
      if coefficient = 0 then decimalShape lib scale digits rest
      else decimalShape lib (max scale (-exponent).toNat)
        (max digits (integerDigits coefficient exponent)) rest
    | _ => none

/-- `_decimal_dtype`. -/
def decimalDtype (lib : Library) (series : Series) : Except Exn CastType :=
  match decimalShape lib 0 0 series.values with
  | none => .error (schemaDrift
      ("Source column '" ++ series.name ++ "' contains values that cannot be cast to Decimal."))
  | some (scale, digits) =>
    let precision := max 1 (digits + scale)
    if precision > 38 then .error (schemaDrift
      ("Source column '" ++ series.name ++ "' exceeds Polars' supported Decimal precision."))
    else .ok (.decimal precision scale)

/-! ## Casting a batch -/

/-- What a cast raises: an error of Polars, or another exception. -/
inductive CastError where
  | polars
  | raised (e : Exn)

/-- The Polars type that a column is cast to. -/
def castTarget (lib : Library) (frame : Frame) (column : String) :
    ColumnType → Except CastError CastType
  | .decimal =>
    match frame.column? column with
    | none => .error .polars
    | some series =>
      match decimalDtype lib series with
      | .ok type => .ok type
      | .error e => .error (.raised e)
  | selected => .ok (.plain selected)

/-- `str(dtype)` of a cast. -/
def castLabel : CastType → String
  | .plain selected => selected.dataType
  | .decimal precision scale =>
    "Decimal(precision=" ++ toString precision ++ ", scale=" ++ toString scale ++ ")"

/-- `pl.col(column).cast(type, strict=True).alias(column)`. -/
def castSeries (lib : Library) (frame : Frame) (column : String) (type : CastType) :
    Except CastError Series :=
  match frame.column? column with
  | none => .error .polars
  | some series =>
    match lib.strictCast type series with
    | none => .error .polars
    | some values => .ok ⟨column, castLabel type, values⟩

/-- The types that the columns are cast to; they are all computed before the first cast. -/
def castTargets (lib : Library) (frame : Frame) :
    List (String × ColumnType) → Except CastError (List (String × CastType))
  | [] => .ok []
  | (column, selected) :: rest => do
    let type ← castTarget lib frame column selected
    let others ← castTargets lib frame rest
    return (column, type) :: others

/-- The cast columns of a frame. -/
def castAll (lib : Library) (frame : Frame) :
    List (String × CastType) → Except CastError (List Series)
  | [] => .ok []
  | (column, type) :: rest => do
    let series ← castSeries lib frame column type
    let others ← castAll lib frame rest
    return series :: others

/-- `_column_cast_fails`. -/
def columnCastFails (lib : Library) (frame : Frame) (column : String) (selected : ColumnType) :
    Except Exn Bool :=
  match castTarget lib frame column selected with
  | .error .polars => .ok true
  | .error (.raised e) => .error e
  | .ok type =>
    match castSeries lib frame column type with
    | .ok _ => .ok false
    | .error _ => .ok true

/-- The first column whose cast fails. -/
def failingColumn (lib : Library) (frame : Frame) :
    List (String × ColumnType) → Except Exn (Option String)
  | [] => .ok none
  | (column, selected) :: rest => do
    if ← columnCastFails lib frame column selected then return some column
    failingColumn lib frame rest

/-- The exception that replaces an error of Polars. -/
def castFailure (lib : Library) (frame : Frame) (overrides : List (String × ColumnType)) : Exn :=
  match failingColumn lib frame overrides with
  | .error e => e
  | .ok none => schemaDrift "The source batch could not be cast to the selected column types."
  | .ok (some column) => schemaDrift
      ("Source column '" ++ column ++ "' contains values that cannot be cast to the selected type.")

/-- Equality of the numbers that two decimals denote. -/
def sameNumber : PyDecimal → PyDecimal → Bool
  | .finite n c e, .finite n' c' e' =>
    let signed (negative : Bool) (k : Nat) : Int := if negative then -k else k
    decide (signed n (c * 10 ^ (e - min e e').toNat) = signed n' (c' * 10 ^ (e' - min e e').toNat))
  | _, _ => false

/-- `_same_numeric_value`. -/
def sameNumericValue (lib : Library) : Cell → Cell → Bool
  | .null, after => decide (after = .null)
  | _, .null => false
  | before, after =>
    match decimalOf lib before, lib.decimal after with
    | some x, some y => sameNumber x y
    | _, _ => false

/-- The casts that must not change a number. -/
def exactTypes : List ColumnType := [.smallint, .integer, .bigint, .decimal]

/-- The column of an exact cast that lost precision. -/
def losesPrecision (lib : Library) (before after : Frame) (column : String) : Bool :=
  match before.column? column, after.column? column with
  | some s, some t => !(s.values.zip t.values).all fun e => sameNumericValue lib e.1 e.2
  | _, _ => false

end Casting

open Casting in
/-- `cast_batch_columns`. -/
def castBatchColumns (lib : Library) (batch : TransferBatch)
    (overrides : List (String × ColumnType)) : Except Exn TransferBatch :=
  if overrides.isEmpty then .ok batch
  else
    match castTargets lib batch.frame overrides >>= castAll lib batch.frame with
    | .error (.raised e) => .error e
    | .error .polars => .error (castFailure lib batch.frame overrides)
    | .ok series =>
      match batch.frame.withColumns series with
      | .error _ => .error (castFailure lib batch.frame overrides)
      | .ok frame =>
        match overrides.find? fun e =>
            e.2 ∈ exactTypes && losesPrecision lib batch.frame frame e.1 with
        | some e => .error (schemaDrift
            ("Source column '" ++ e.1 ++
              "' would lose numeric precision with the selected cast."))
        | none => .ok { batch with frame := frame, byteCount := lib.estimatedSize frame }

/-! ## What a cast keeps -/

section Casts

variable {lib : Library} {schema schema' : ObjectSchema} {batch batch' : TransferBatch}
  {overrides : List (String × ColumnType)}

/-- The overrides change types only. -/
theorem applyColumnTypeOverridesToSchema_names
    (h : applyColumnTypeOverridesToSchema schema overrides = .ok schema') :
    schema'.names = schema.names := by
  unfold applyColumnTypeOverridesToSchema at h
  split_ifs at h
  · cases h
    rfl
  · cases h
    rw [ObjectSchema.names, ObjectSchema.names, List.map_map]
    refine List.map_congr_left fun column _ => ?_
    simp only [Function.comp_apply]
    split <;> rfl

theorem SameNulls.refl (values : List Cell) : SameNulls values values :=
  List.forall₂_same.2 fun _ _ => Iff.rfl

theorem SameNulls.trans {a b c : List Cell} (h : SameNulls a b) (h' : SameNulls b c) :
    SameNulls a c := by
  induction h generalizing c with
  | nil =>
    cases h'
    exact .nil
  | cons head _ ih =>
    cases h' with
    | cons head' tail' => exact .cons (head.trans head') (ih tail')

/-- Every cast column is a column of the frame, with the same nulls. -/
theorem castAll_spec (lawful : lib.Lawful) {frame : Frame} {targets : List (String × CastType)}
    {series : List Series} (h : Casting.castAll lib frame targets = .ok series) :
    ∀ t ∈ series, ∃ s, frame.column? t.name = some s ∧ SameNulls s.values t.values := by
  induction targets generalizing series with
  | nil =>
    cases h
    simp
  | cons e rest ih =>
    obtain ⟨column, type⟩ := e
    obtain ⟨t, ht, h⟩ := bind_eq_ok.1 h
    obtain ⟨others, ho, h⟩ := bind_eq_ok.1 h
    cases h
    intro u hu
    rcases List.mem_cons.1 hu with rfl | hu
    · unfold Casting.castSeries at ht
      split at ht
      · cases ht
      · rename_i s hs
        split at ht
        · cases ht
        · rename_i values hv
          cases ht
          exact ⟨s, hs, lawful.strictCast_nulls type s values hv⟩
    · exact ih ho u hu

/-- What `cast_batch_columns` keeps of a batch. -/
structure CastKeeps (batch batch' : TransferBatch) : Prop where
  rowCount : batch'.rowCount = batch.rowCount
  sequence : batch'.sequence = batch.sequence
  names : batch'.frame.names = batch.frame.names
  nulls : ∀ name s, batch.frame.column? name = some s →
    ∃ s', batch'.frame.column? name = some s' ∧ SameNulls s.values s'.values

theorem castBatchColumns_keeps (lawful : lib.Lawful)
    (h : castBatchColumns lib batch overrides = .ok batch') : CastKeeps batch batch' := by
  unfold castBatchColumns at h
  split_ifs at h
  · cases h
    exact ⟨rfl, rfl, rfl, fun _ s hs => ⟨s, hs, .refl _⟩⟩
  · split at h
    · cases h
    · cases h
    · rename_i series hall
      obtain ⟨targets, -, hall⟩ := bind_eq_ok.1 hall
      have spec := castAll_spec lawful hall
      have present : ∀ t ∈ series, t.name ∈ batch.frame.names := by
        intro t ht
        obtain ⟨s, hs, -⟩ := spec t ht
        obtain ⟨hmem, hn⟩ := Frame.column?_eq_some_iff.1 hs
        exact hn ▸ Frame.mem_names hmem
      split at h
      · cases h
      · rename_i frame hw
        split at h
        · cases h
        · cases h
          refine ⟨rfl, rfl, Frame.withColumns_names present hw, fun name s hs => ?_⟩
          rw [Frame.withColumns_column? present hw, hs, Option.map_some]
          refine ⟨_, rfl, ?_⟩
          generalize hf : series.find? (fun t => t.name = name) = found
          cases found with
          | none => exact .refl _
          | some t =>
            have hn : t.name = name := by simpa using List.find?_some hf
            obtain ⟨s', hs', nulls⟩ := spec t (List.mem_of_find?_eq_some hf)
            rw [hn, hs, Option.some.injEq] at hs'
            rw [Option.getD_some, hs']
            exact nulls

end Casts

end DataMover
