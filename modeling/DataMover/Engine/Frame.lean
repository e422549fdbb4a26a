import DataMover.Runs.State

/-!
# Frames and schemas

The values that the transfer engine moves: cells, series and frames with the Polars operations the
engine uses, transfer batches, and the schemas, locators, write policies and definition snapshots that
describe a route.  A frame has distinct column names and columns of one height; the operations raise
where Polars does.
-/

namespace DataMover

abbrev Bytes := List UInt8

/-- `text.encode("utf-8")`. -/
def utf8 (s : String) : Bytes := s.toUTF8.toList

/-! ## Cells -/

/-- A Python value read from a column; numbers other than integers, and values of other types, are
kept as their printed text. -/
inductive Cell where
  | null
  | bool (b : Bool)
  | int (n : Int)
  | float (text : String)
  | decimal (text : String)
  | text (s : String)
  | bytes (data : Bytes)
  | other (typeName text : String)
  deriving DecidableEq

/-- `value if isinstance(value, bytes) else str(value).encode("utf-8", errors="replace")`. -/
def Cell.encoded : Cell → Bytes
  | null => utf8 "None"
  | bool b => utf8 (if b then "True" else "False")
  | int n => utf8 (toString n)
  | float printed | decimal printed | other _ printed => utf8 printed
  | text s => utf8 s
  | bytes data => data

/-! ## Frames -/

/-- A named column with its data type label. -/
structure Series where
  name : String
  dtype : String
  values : List Cell
  deriving DecidableEq

/-- `pl.DataFrame`. -/
structure Frame where
  columns : List Series
  nodup : (columns.map Series.name).Nodup
  rect : ∀ s ∈ columns, ∀ t ∈ columns, s.values.length = t.values.length
  deriving DecidableEq

namespace Frame

/-- `frame.columns`. -/
def names (f : Frame) : List String := f.columns.map Series.name

/-- `frame.get_column(name)`. -/
def column? (f : Frame) (name : String) : Option Series := f.columns.find? fun s => s.name = name

/-- Build a frame; Polars refuses repeated names and columns of different heights. -/
def ofColumns (columns : List Series) : Except Exn Frame :=
  if h : (columns.map Series.name).Nodup ∧
      ∀ s ∈ columns, ∀ t ∈ columns, s.values.length = t.values.length then
    .ok ⟨columns, h.1, h.2⟩
  else .error (.other "PolarsError")

/-- `frame.select(names)`. -/
def select (f : Frame) (names : List String) : Except Exn Frame :=
  if ∀ n ∈ names, n ∈ f.names then ofColumns (names.filterMap f.column?)
  else .error (.other "ColumnNotFoundError")

/-- `frame.with_columns(series)`: a column of the same name is replaced where it stands. -/
def withColumns (f : Frame) (series : List Series) : Except Exn Frame :=
  ofColumns
    (f.columns.map (fun s => (series.find? fun t => t.name = s.name).getD s) ++
      series.filter fun t => t.name ∉ f.names)

/-- `frame.drop(names)`. -/
def drop (f : Frame) (names : List String) : Except Exn Frame :=
  if ∀ n ∈ names, n ∈ f.names then ofColumns (f.columns.filter fun s => s.name ∉ names)
  else .error (.other "ColumnNotFoundError")

/-! ### What the operations return -/

variable {f g : Frame} {name : String}

theorem mem_names {s : Series} (h : s ∈ f.columns) : s.name ∈ f.names :=
  List.mem_map_of_mem h

theorem column?_eq_some_iff {s : Series} :
    f.column? name = some s ↔ s ∈ f.columns ∧ s.name = name := by
  constructor
  · intro h
    exact ⟨List.mem_of_find?_eq_some h, by simpa using List.find?_some h⟩
  · rintro ⟨hs, rfl⟩
    rcases hf : f.column? s.name with _ | t
    · have := List.find?_eq_none.1 hf s hs
      simp at this
    · have ht : t ∈ f.columns := List.mem_of_find?_eq_some hf
      have hn : t.name = s.name := by simpa using List.find?_some hf
      rw [List.inj_on_of_nodup_map f.nodup ht hs hn]

theorem exists_column? (h : name ∈ f.names) : ∃ s, f.column? name = some s := by
  obtain ⟨s, hs, hn⟩ := List.mem_map.1 h
  exact ⟨s, column?_eq_some_iff.2 ⟨hs, hn⟩⟩

theorem column?_eq_none (h : name ∉ f.names) : f.column? name = none := by
  rcases hf : f.column? name with _ | s
  · rfl
  · obtain ⟨hs, hn⟩ := column?_eq_some_iff.1 hf
    exact absurd (hn ▸ mem_names hs) h

theorem ofColumns_eq_ok {columns : List Series} :
    ofColumns columns = .ok f ↔ f.columns = columns := by
  unfold ofColumns
  constructor
  · intro h
    split_ifs at h with hc
    cases h
    rfl
  · rintro rfl
    rw [dif_pos ⟨f.nodup, f.rect⟩]

/-- The columns of two frames agree by name when they agree as lists. -/
theorem names_of_filterMap {names : List String} (h : ∀ n ∈ names, n ∈ f.names) :
    (names.filterMap f.column?).map Series.name = names := by
  induction names with
  | nil => rfl
  | cons n rest ih =>
    obtain ⟨s, hs⟩ := exists_column? (h n List.mem_cons_self)
    rw [List.filterMap_cons_some hs, List.map_cons, (column?_eq_some_iff.1 hs).2,
      ih fun m hm => h m (List.mem_cons_of_mem n hm)]

/-- A selection has the selected columns, in the selected order. -/
theorem select_eq_ok {names : List String} (h : f.select names = .ok g) :
    g.names = names ∧ (∀ n ∈ names, n ∈ f.names) ∧ ∀ n ∈ names, g.column? n = f.column? n := by
  unfold select at h
  split_ifs at h with sub
  have columns := ofColumns_eq_ok.1 h
  refine ⟨by rw [Frame.names, columns, names_of_filterMap sub], sub, fun n hn => ?_⟩
  obtain ⟨s, hs⟩ := exists_column? (sub n hn)
  rw [hs, column?_eq_some_iff, columns]
  exact ⟨List.mem_filterMap.2 ⟨n, hn, hs⟩, (column?_eq_some_iff.1 hs).2⟩

/-- Selecting from a selection is selecting from the frame. -/
theorem select_select {names names' : List String} (h : f.select names = .ok g)
    (sub : ∀ n ∈ names', n ∈ names) : g.select names' = f.select names' := by
  obtain ⟨hg, hf, same⟩ := select_eq_ok h
  unfold select
  rw [if_pos fun n hn => hg ▸ sub n hn, if_pos fun n hn => hf n (sub n hn)]
  congr 1
  refine List.filterMap_congr fun n hn => ?_
  exact same n (sub n hn)

/-- Selecting all columns in their order changes nothing. -/
theorem select_names : f.select f.names = .ok f := by
  unfold select
  rw [if_pos fun n hn => hn, ofColumns_eq_ok]
  have each : ∀ s ∈ f.columns, f.column? s.name = some s := fun s hs =>
    column?_eq_some_iff.2 ⟨hs, rfl⟩
  rw [Frame.names, List.filterMap_map]
  generalize f.columns = columns at each
  induction columns with
  | nil => rfl
  | cons s rest ih =>
    rw [List.filterMap_cons_some (f := f.column? ∘ Series.name) (each s List.mem_cons_self),
      ← ih fun t ht => each t (List.mem_cons_of_mem s ht)]

/-- Replacing columns of a frame keeps its names and their order. -/
theorem withColumns_names {series : List Series} (present : ∀ t ∈ series, t.name ∈ f.names)
    (h : f.withColumns series = .ok g) : g.names = f.names := by
  have columns := ofColumns_eq_ok.1 h
  have none : (series.filter fun t => t.name ∉ f.names) = [] := by
    rw [List.filter_eq_nil_iff]
    intro t ht
    simpa using present t ht
  rw [Frame.names, columns, none, List.append_nil, List.map_map]
  refine List.map_congr_left fun s _ => ?_
  rcases hf : series.find? fun t => t.name = s.name with _ | t
  · simp [hf]
  · have : t.name = s.name := by simpa using List.find?_some hf
    simp [hf, this]

/-- A replaced column is the new one; the others stay. -/
theorem withColumns_column? {series : List Series} (present : ∀ t ∈ series, t.name ∈ f.names)
    (h : f.withColumns series = .ok g) (name : String) :
    g.column? name = (f.column? name).map fun s => (series.find? fun t => t.name = name).getD s := by
  by_cases hn : name ∈ f.names
  · obtain ⟨s, hs⟩ := exists_column? hn
    obtain ⟨hmem, rfl⟩ := column?_eq_some_iff.1 hs
    rw [hs, Option.map_some, column?_eq_some_iff, ofColumns_eq_ok.1 h]
    refine ⟨List.mem_append_left _ (List.mem_map_of_mem hmem), ?_⟩
    generalize hf : series.find? (fun t => t.name = s.name) = found
    cases found with
    | none => rfl
    | some t => simpa using List.find?_some hf
  · rw [column?_eq_none hn, column?_eq_none (withColumns_names present h ▸ hn)]
    rfl

/-- Dropping columns keeps the others, in their order. -/
theorem drop_eq_ok {names : List String} (h : f.drop names = .ok g) :
    g.names = f.names.filter (· ∉ names) ∧ (∀ n ∈ names, n ∈ f.names) ∧
      ∀ n ∉ names, g.column? n = f.column? n := by
  unfold drop at h
  split_ifs at h with sub
  have columns := ofColumns_eq_ok.1 h
  have gnames : g.names = f.names.filter (· ∉ names) := by
    rw [Frame.names, columns, Frame.names, List.filter_map]
    rfl
  refine ⟨gnames, sub, fun n hn => ?_⟩
  by_cases hf : n ∈ f.names
  · obtain ⟨s, hs⟩ := exists_column? hf
    obtain ⟨hmem, rfl⟩ := column?_eq_some_iff.1 hs
    rw [hs, column?_eq_some_iff, columns]
    exact ⟨List.mem_filter.2 ⟨hmem, by simpa using hn⟩, rfl⟩
  · rw [column?_eq_none hf, column?_eq_none]
    rw [gnames]
    exact fun hm => hf (List.mem_filter.1 hm).1

end Frame

/-- `TransferBatch`. -/
structure TransferBatch where
  frame : Frame
  rowCount : Nat
  byteCount : Nat
  sequence : Nat
  deriving DecidableEq

/-! ## Routes -/

/-- `DatabricksTableLocator`. -/
structure DatabricksTable where
  workspaceId : String
  catalog : String
  schemaName : String
  table : String
  objectId : String := ""
  connectionGeneration : String := ""
  schemaFingerprint : String := ""
  sensitivityFingerprint : String := ""
  deriving DecidableEq

/-- The locators of `domain/locators.py`; an absent list of files means all supported files. -/
inductive Locator where
  | postgresTable (schemaName table : String)
  | foundryDatasetFiles (datasetRid branch : String) (filePaths : Option (List String))
  | foundryUpload (datasetRid branch fileName publication : String)
  | csvUpload (uploadId checksumSha256 : String)
  | databricksTable (table : DatabricksTable)
  deriving DecidableEq

/-- `isinstance(locator, DatabricksTableLocator)`, with the locator. -/
def Locator.databricks? : Locator → Option DatabricksTable
  | databricksTable table => some table
  | _ => none

/-- `isinstance(locator, PostgresTableLocator)`. -/
def Locator.isPostgres : Locator → Bool
  | postgresTable _ _ => true
  | _ => false

/-- `ColumnSchema`. -/
structure ColumnSchema where
  name : String
  dataType : String
  nullable : Bool := true
  sampleText : String := ""
  sensitivityMarkers : List String := []
  deriving DecidableEq

/-- `ObjectSchema`. -/
structure ObjectSchema where
  locator : Locator
  columns : List ColumnSchema
  primaryKey : List String := []
  uniqueConstraints : List (List String) := []
  estimatedRows : Option Int := none
  sensitivityMarkers : List String := []
  columnSensitivityMarkers : List (String × List String) := []
  removedColumns : List String := []
  metadataCoverage : String := "unknown"
  schemaFingerprint : String := ""
  sensitivityFingerprint : String := ""
  deriving DecidableEq

/-- The names of the columns of a schema. -/
def ObjectSchema.names (schema : ObjectSchema) : List String := schema.columns.map ColumnSchema.name

/-- The keys of `COLUMN_TYPE_OVERRIDE_DATA_TYPES`. -/
inductive ColumnType where
  | text
  | boolean
  | smallint
  | integer
  | bigint
  | real
  | double
  | decimal
  | date
  | timestamp
  | time
  | interval
  | binary
  deriving DecidableEq

/-- `COLUMN_TYPE_OVERRIDE_DATA_TYPES`. -/
def ColumnType.dataType : ColumnType → String
  | text => "String"
  | boolean => "Boolean"
  | smallint => "Int16"
  | integer => "Int32"
  | bigint => "Int64"
  | real => "Float32"
  | double => "Float64"
  | decimal => "Decimal(precision=None, scale=None)"
  | date => "Date"
  | timestamp => "Datetime(time_unit='us')"
  | time => "Time"
  | interval => "Duration(time_unit='us')"
  | binary => "Binary"

/-- The kinds of write policies, with the fields of each. -/
inductive WriteMode where
  | postgresAppend (primaryKeyColumns : List String) (autoIncrementPrimaryKey : String)
  | postgresUpsert (conflictColumns : List String) (action : String)
  | postgresReplace (schemaPolicy : String) (primaryKeyColumns : List String)
      (autoIncrementPrimaryKey : String)
  | foundryReplaceFile (publication : String)
  | databricksCreate
  | databricksAppend
  | databricksReplace
  deriving DecidableEq

/-- `policy.kind`. -/
def WriteMode.kind : WriteMode → String
  | postgresAppend _ _ => "postgres_append"
  | postgresUpsert _ _ => "postgres_upsert"
  | postgresReplace _ _ _ => "postgres_replace"
  | foundryReplaceFile _ => "foundry_replace_file"
  | databricksCreate => "databricks_create"
  | databricksAppend => "databricks_append"
  | databricksReplace => "databricks_replace"

/-- A write policy; the overrides are a dictionary from column names to cast types. -/
structure WritePolicy where
  mode : WriteMode
  columnTypeOverrides : List (String × ColumnType) := []
  nodup : (columnTypeOverrides.map Prod.fst).Nodup := by decide

/-- `GuardrailDetector`. -/
inductive Detector where
  | foundryMetadata
  | databricksMetadata
  | ssn
  deriving DecidableEq

def Detector.value : Detector → String
  | foundryMetadata => "foundry_metadata"
  | databricksMetadata => "databricks_metadata"
  | ssn => "ssn"

/-- `GuardrailActionName`. -/
inductive ActionName where
  | hash
  | remove
  deriving DecidableEq

def ActionName.value : ActionName → String
  | hash => "hash"
  | remove => "remove"

/-- `GuardrailAction`: a saved decision for one detector and source column. -/
structure GuardrailAction where
  detector : Detector
  column : String
  action : ActionName
  sourceKey : String := ""
  deriving DecidableEq

/-- `DefinitionSnapshot`, without the name of the pipeline and its version. -/
structure DefinitionSnapshot where
  sourceProvider : String
  destinationProvider : String
  source : Locator
  destination : Locator
  writePolicy : WritePolicy
  sourceUploadId : Option String := none
  guardrailActions : List GuardrailAction := []

/-! ## Library functions -/

/-- A `decimal.Decimal`: `(-1)^negative * coefficient * 10^exponent`, or an infinity or a NaN. -/
inductive PyDecimal where
  | finite (negative : Bool) (coefficient : Nat) (exponent : Int)
  | nonFinite
  deriving DecidableEq

/-- The Polars type of a cast. -/
inductive CastType where
  | plain (type : ColumnType)
  | decimal (precision scale : Nat)
  deriving DecidableEq

/-- An AES-GCM nonce of 12 bytes. -/
abbrev Nonce := { n : Bytes // n.length = 12 }

/-- The library functions that the engine calls.  Where the library raises, the function is `none`. -/
structure Library where
  /-- `contains_supported_ssn(value)`. -/
  containsSupportedSsn : Cell → Bool
  /-- `Decimal(str(value))`. -/
  decimal : Cell → Option PyDecimal
  /-- `int(text)`. -/
  int : String → Option Int
  /-- `text.casefold()`. -/
  casefold : String → String
  /-- `databricks_guardrail_source_key(locator, owner_id=owner)`, a SHA-256 of their JSON text. -/
  databricksGuardrailSourceKey : DatabricksTable → String → String
  /-- The values of `series.cast(type, strict=True)`. -/
  strictCast : CastType → Series → Option (List Cell)
  /-- `frame.estimated_size()`. -/
  estimatedSize : Frame → Nat
  /-- `frame.write_ipc(payload, compression="zstd")`. -/
  writeIpc : Frame → Bytes
  /-- `pl.read_ipc(payload)`. -/
  readIpc : Bytes → Option Frame
  /-- `hmac.new(key, message, hashlib.sha256).digest()`. -/
  hmacSha256 : Bytes → Bytes → Bytes
  /-- `cipher.encrypt(nonce, plaintext, associated_data)`. -/
  encrypt : Nonce → Bytes → Bytes → Bytes
  /-- `cipher.decrypt(nonce, ciphertext, associated_data)`. -/
  decrypt : Nonce → Bytes → Bytes → Option Bytes
  /-- The n-th result of `os.urandom(12)` for the spool. -/
  urandom : Nat → Nonce

/-- Two columns are null in the same rows. -/
def SameNulls (before after : List Cell) : Prop :=
  List.Forall₂ (fun x y => x = .null ↔ y = .null) before after

/-- What the engine relies on: a strict cast makes no null and removes none, the spool's cipher and
file format are inverted by their readers, and a SHA-256 digest has 32 bytes. -/
structure Library.Lawful (lib : Library) : Prop where
  strictCast_nulls : ∀ type series values, lib.strictCast type series = some values →
    SameNulls series.values values
  readIpc_writeIpc : ∀ frame, lib.readIpc (lib.writeIpc frame) = some frame
  decrypt_encrypt : ∀ nonce plaintext data,
    lib.decrypt nonce (lib.encrypt nonce plaintext data) data = some plaintext
  hmacSha256_length : ∀ key message, (lib.hmacSha256 key message).length = 32

/-! ### A lawful library -/

instance encodableChar : Encodable Char := .ofLeftInverse Char.toNat Char.ofNat Char.ofNat_toNat

instance encodableString : Encodable String := .ofLeftInverse String.toList String.ofList fun s => by simp

instance encodableUInt8 : Encodable UInt8 := .ofLeftInverse UInt8.toNat UInt8.ofNat fun n => by simp

deriving instance Encodable for Cell

deriving instance Encodable for Series

instance : Encodable Frame :=
  .ofLeftInjection Frame.columns (fun columns => (Frame.ofColumns columns).toOption) fun f => by
    rw [Frame.ofColumns_eq_ok.2 rfl]
    rfl

/-- Two rows, one of them with a social security number. -/
def Frame.sample : Frame where
  columns := [⟨"id", "Int64", [.int 1, .int 2]⟩, ⟨"ssn", "String", [.text "123-45-6789", .null]⟩]
  nodup := by decide
  rect := by decide

/-- Another row of the same source. -/
def Frame.third : Frame where
  columns := [⟨"id", "Int64", [.int 3]⟩, ⟨"ssn", "String", [.text "123-45-6789"]⟩]
  nodup := by decide
  rect := by decide

/-- The same row, with the columns in another order. -/
def Frame.permuted : Frame where
  columns := [⟨"ssn", "String", [.text "123-45-6789"]⟩, ⟨"id", "Int64", [.int 3]⟩]
  nodup := by decide
  rect := by decide

/-- A library that is real enough for the first two: they are written as nothing and as one byte, and any
other frame as the unary code of its number. -/
def Library.sample : Library where
  containsSupportedSsn value := decide (value = .text "123-45-6789")
  decimal _ := none
  int _ := none
  casefold s := String.ofList (s.toList.map Char.toLower)
  databricksGuardrailSourceKey _ _ := ""
  strictCast _ _ := none
  estimatedSize _ := 0
  writeIpc f := if f = .sample then [] else if f = .third then [1] else
    List.replicate (Encodable.encode f + 1) 0
  readIpc
    | [] => some .sample
    | 1 :: _ => some .third
    | _ :: rest => Encodable.decode rest.length
  hmacSha256 _ _ := List.replicate 32 0
  encrypt _ plaintext _ := plaintext
  decrypt _ ciphertext _ := some ciphertext
  urandom _ := ⟨List.replicate 12 0, rfl⟩

theorem Library.sample_lawful : Library.sample.Lawful where
  strictCast_nulls := nofun
  readIpc_writeIpc f := by
    simp only [Library.sample]
    split_ifs with first second
    · rw [first]
    · rw [second]
      rfl
    · simp [List.replicate_succ]
  decrypt_encrypt _ _ _ := rfl
  hmacSha256_length _ _ := List.length_replicate

end DataMover
