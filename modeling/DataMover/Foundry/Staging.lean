import DataMover.Foundry.Enumeration
import DataMover.Foundry.ValueProfiles
import DataMover.Text.Padding

/-!
# Staging a Foundry file

`write_batch` stages every batch as a chunk of its own, named by its sequence number, and `finalize` casts
the chunks to a common schema and concatenates them into the file that it uploads.  The uploaded file has
the cells of all batches in the order of their numbers.
-/

namespace DataMover

namespace Foundry

open Paging (mapM_eq_some)
open PyJson (PyString ofString ofChar sortKeys)

/-! ## Polars -/

namespace TypedFrame

/-- A frame of these columns; Polars refuses equal names and different heights. -/
def ofColumns (columns : List Column) : Option TypedFrame :=
  if h : (columns.map Column.name).Nodup ∧
      ∀ c ∈ columns, ∀ d ∈ columns, c.cells.length = d.cells.length then
    some ⟨columns, h.1, h.2⟩
  else none

/-- `frame.height`. -/
def height (f : TypedFrame) : Nat := (f.columns.head?.map fun c => c.cells.length).getD 0

/-- `frame.select(names)`. -/
def select (f : TypedFrame) (names : List String) : Option TypedFrame :=
  (names.mapM f.column?).bind ofColumns

/-- Columns of one type, one below the other. -/
def appendColumns : List Column → List Column → Option (List Column)
  | [], [] => some []
  | c :: cs, d :: ds =>
    if same : c.name = d.name ∧ c.dtype = d.dtype then
      (appendColumns cs ds).map fun rest =>
        { c with
          cells := c.cells ++ d.cells
          typed := fun v mem => (List.mem_append.1 mem).elim (c.typed v) fun mem => same.2 ▸ d.typed v mem } ::
          rest
    else none
  | _, _ => none

/-- `pl.concat([f, g], how="vertical")`. -/
def append (f g : TypedFrame) : Option TypedFrame := (appendColumns f.columns g.columns).bind ofColumns

/-- `pl.concat(frames, how="vertical")`. -/
def concat : List TypedFrame → Option TypedFrame
  | [] => none
  | first :: rest => rest.foldlM append first

end TypedFrame

/-- Polars, and the directory of the chunks. -/
structure Polars where
  /-- The content of a Parquet file. -/
  File : Type
  /-- `path.stat().st_size`. -/
  size : File → Nat
  /-- `frame.write_parquet(path, compression="snappy")`. -/
  writeParquet : TypedFrame → File
  /-- `pl.read_parquet(path)` and `pl.scan_parquet(path)`. -/
  readParquet : File → Option TypedFrame
  /-- `pl.col(column).cast(data_type, strict=True)`. -/
  cast : Column → Dtype → Option Column
  /-- `chunk_root.glob("*.parquet")`, in the order of the directory. -/
  glob : List (PyString × File) → List (PyString × File)

/-- A strict cast is exact where the type has all values, a Parquet file holds its frame, and a directory
lists its files. -/
structure Polars.Lawful (polars : Polars) : Prop where
  exact : ∀ c t (fits : ∀ v, some v ∈ c.cells → v ∈ t.values), c.dtype.CastsTo t →
    polars.cast c t = some { c with dtype := t, typed := fits }
  roundTrip : ∀ f, polars.readParquet (polars.writeParquet f) = some f
  listed : ∀ files, (polars.glob files).Perm files

/-- `frame.select(_schema_casts(schema))`. -/
def Polars.castFrame (polars : Polars) (f : TypedFrame) (schema : Schema) : Option TypedFrame :=
  (schema.mapM fun e => (f.column? e.1).bind fun c => polars.cast c e.2).bind TypedFrame.ofColumns

/-! ## The type of an empty column -/

/-- `precision=(\d+|none),\s*scale=(\d+|none)` at the start of a text. -/
def decimalLabelShape (cs : List Char) : Option (Option (List Char) × Option (List Char)) := do
  let rest ← "precision=".toList.isPrefixOf? cs
  let (precision, rest) ← takeDigitsOrNone rest
  let rest ← [','].isPrefixOf? rest
  let rest ← "scale=".toList.isPrefixOf? (rest.dropWhile isSpace)
  let (scale, _) ← takeDigitsOrNone rest
  return (precision, scale)

/-- The labels that name a type. -/
def namedDtypes : List (String × Dtype) := [
  ("int8", .int8), ("int16", .int16), ("int32", .int32), ("int64", .int64),
  ("uint8", .uint8), ("uint16", .uint16), ("uint32", .uint32), ("uint64", .uint64),
  ("float32", .float32), ("float64", .float64)]

/-- The decimal type of a label. -/
def decimalDtypeOf : Option (List Char) → Option (List Char) → Dtype
  | none, none => .decimal (some 38) (some 0)
  | some precision, some scale =>
    let precision := min 38 (numeral precision)
    .decimal (some precision) (some (min precision (numeral scale)))
  | _, _ => .other "String"

/-- `_polars_dtype`; type labels spell their numbers in ASCII digits. -/
def polarsDtypeOf (casefold : String → String) (dataType : String) : Dtype :=
  let folded := casefold dataType
  if startsWith "interval" folded || startsWith "duration" folded then
    .other "Duration(time_unit='us')"
  else if occursIn "bool" folded then .other "Boolean"
  else match namedDtypes.lookup folded with
    | some dtype => dtype
    | none =>
      if occursIn "int" folded then .int64
      else if occursIn "float" folded || occursIn "double" folded then .float64
      else if folded = "date" then .other "Date"
      else if startsWith "datetime" folded || startsWith "timestamp" folded then
        .other "Datetime(time_unit='us', time_zone=None)"
      else if startsWith "time" folded then .other "Time"
      else match folded.toList.tails.findSome? decimalLabelShape with
        | some (precision, scale) => decimalDtypeOf precision scale
        | none =>
          if occursIn "decimal" folded || occursIn "numeric" folded then .other "String"
          else if occursIn "binary" folded || occursIn "bytea" folded then .other "Binary"
          else .other "String"

/-! ## The session -/

/-- `FoundryUploadLocator`. -/
structure FoundryUploadLocator where
  datasetRid : String
  branch : String
  fileName : String
  deriving DecidableEq

/-- `TransferBatch`, with a frame of typed columns. -/
structure FoundryBatch where
  frame : TypedFrame
  rowCount : Nat
  byteCount : Nat
  sequence : Nat

/-- A load session with the files that belong to it; `none` is a file or a directory that does not
exist, or a locator of another kind. -/
structure StagingSession (File : Type) where
  locator : Option FoundryUploadLocator
  spool : Option File := none
  chunkRoot : Option (Dict PyString File) := none
  /-- `metadata["schema"]`: the names and the types. -/
  schema : List (String × String) := []
  columns : Option (List String) := none
  spoolBytes : Nat := 0
  decimalValueProfiles : Option String := none
  rows : Nat := 0

/-- `prepare_destination`, for a run that has no files yet. -/
def prepareDestination {File : Type} (locator : FoundryUploadLocator) (schema : List (String × String)) :
    StagingSession File :=
  { locator := some locator, chunkRoot := some [], schema }

/-- `f"{sequence:08d}.parquet"`. -/
def chunkName (sequence : Nat) : PyString :=
  (padded 8 sequence).map ofChar ++ ".parquet".toList.map ofChar

def incompatibleTypes : Exn :=
  permanentError .schemaDrift "Foundry batches have incompatible column types; no file was published."

def spoolLimitExceeded : Exn := permanentError .spoolLimitExceeded
  "The destination staging data exceeds the configured spool size limit."

section Functions

variable (polars : Polars) (maximum : Nat)

/-- `write_batch` when there is a spool file: the batch is added to it. -/
def appendToSpool (s : StagingSession polars.File) (file : polars.File) (batch : FoundryBatch) :
    Except Exn BatchWriteResult × StagingSession polars.File :=
  match polars.readParquet file with
  | none => (.error (.other "ComputeError"), s)
  | some existing =>
    if ¬ (existing.names ⊆ batch.frame.names ∧ batch.frame.names ⊆ existing.names) then
      (.error (permanentError .schemaDrift "The source schema changed during extraction."), s)
    else match batch.frame.select existing.names with
      | none => (.error (.other "ColumnNotFoundError"), s)
      | some selected =>
        let profiles := mergeDecimalValueProfiles [readDecimalValueProfiles s.decimalValueProfiles,
          decimalValueProfiles [existing, selected]]
        match losslessCommonSchema [existing.schema, selected.schema] profiles with
        | none => (.error incompatibleTypes, s)
        | some common =>
          match ([existing, selected].mapM fun f => polars.castFrame f common).bind
              TypedFrame.concat with
          | none => (.error incompatibleTypes, s)
          | some frame =>
            let file := polars.writeParquet frame
            let s := { s with spool := some file }
            if polars.size file > maximum then (.error spoolLimitExceeded, s)
            else (.ok ⟨batch.rowCount, batch.byteCount⟩, { s with
              decimalValueProfiles := some (storeDecimalValueProfiles profiles)
              rows := s.rows + batch.rowCount })

/-- `write_batch`. -/
def writeBatch (s : StagingSession polars.File) (batch : FoundryBatch) :
    Except Exn BatchWriteResult × StagingSession polars.File :=
  match s.spool with
  | some file => appendToSpool polars maximum s file batch
  | none =>
    let file := polars.writeParquet batch.frame
    let spoolBytes := s.spoolBytes + polars.size file
    let files := s.chunkRoot.getD []
    let s := { s with columns := s.columns.or (some batch.frame.names), spoolBytes }
    if spoolBytes > maximum then
      (.error spoolLimitExceeded, { s with
        chunkRoot := some (files.filter fun e => e.1 ≠ chunkName batch.sequence) })
    else
      let profiles := mergeDecimalValueProfiles [readDecimalValueProfiles s.decimalValueProfiles,
        decimalValueProfiles [batch.frame]]
      (.ok ⟨batch.rowCount, batch.byteCount⟩, { s with
        chunkRoot := some (files.set (chunkName batch.sequence) file)
        decimalValueProfiles := some (storeDecimalValueProfiles profiles)
        rows := s.rows + batch.rowCount })

/-- The spool file that `finalize` makes of the chunks. -/
def spoolOfChunks (s : StagingSession polars.File) : Except Exn (Option polars.File) :=
  match s.spool, s.chunkRoot with
  | some file, _ => .ok (some file)
  | none, none => .ok none
  | none, some files =>
    let chunks := sortKeys (polars.glob files)
    if chunks.isEmpty then .ok none
    else match chunks.mapM fun e => polars.readParquet e.2 with
      | none => .error (.other "ComputeError")
      | some scans =>
        match losslessCommonSchema (scans.map TypedFrame.schema)
            (readDecimalValueProfiles s.decimalValueProfiles) with
        | none => .error incompatibleTypes
        | some common =>
          match (scans.mapM fun scan => polars.castFrame scan common).bind TypedFrame.concat with
          | none => .error incompatibleTypes
          | some frame => .ok (some (polars.writeParquet frame))

/-- The spool file without rows, when the schema is known. -/
def emptySpool (casefold : String → String) (s : StagingSession polars.File) : Option polars.File :=
  if s.schema.isEmpty then none
  else (TypedFrame.ofColumns ((Dict.ofItems s.schema).map fun e =>
    ⟨e.1, polarsDtypeOf casefold e.2, [], nofun⟩)).map polars.writeParquet

/-- The arguments of `client.upload_file`, and the rows of the manifest. -/
structure Upload (File : Type) where
  locator : FoundryUploadLocator
  file : File
  rows : Nat

/-- `finalize`, up to the upload. -/
def finalizeUpload (casefold : String → String) (s : StagingSession polars.File) :
    Except Exn (Upload polars.File) := do
  let spool ← spoolOfChunks polars s
  match spool.or (emptySpool polars casefold s) with
  | none => .error (connectorError .partialWrite "No Parquet spool was produced.")
  | some file =>
    if polars.size file > maximum then .error spoolLimitExceeded
    else match s.locator with
      | none =>
        .error (connectorError .destinationNotFound "Foundry destination locator is invalid.")
      | some locator =>
        if s.rows ≠ 0 then .ok ⟨locator, file, s.rows⟩
        else match polars.readParquet file with
          | none => .error (.other "ComputeError")
          | some frame => .ok ⟨locator, file, frame.height⟩

/-- The batches of a run, until one is refused. -/
def writeBatches (s : StagingSession polars.File) :
    List FoundryBatch → Except Exn (StagingSession polars.File)
  | [] => .ok s
  | batch :: batches =>
    match writeBatch polars maximum s batch with
    | (.error e, _) => .error e
    | (.ok _, s) => writeBatches s batches

end Functions

/-! ## Frames, column by column -/

section Frames

variable {f g h : TypedFrame} {name : String}

/-- The cells under a name in some columns. -/
def cellsOf (columns : List Column) (name : String) : List (Option Value) :=
  ((columns.find? fun c => c.name = name).map Column.cells).getD []

theorem cellsOf_cons (c : Column) (columns : List Column) (name : String) :
    cellsOf (c :: columns) name = if c.name = name then c.cells else cellsOf columns name := by
  rw [cellsOf, List.find?_cons]
  by_cases same : c.name = name
  · rw [if_pos same, decide_eq_true same]
    rfl
  · rw [if_neg same, decide_eq_false same]
    rfl

theorem TypedFrame.ofColumns_eq_some {columns : List Column} (h : ofColumns columns = some f) :
    f.columns = columns := by
  unfold ofColumns at h
  split_ifs at h
  cases h
  rfl

theorem appendColumns_eq_some {cs ds es : List Column} (h : TypedFrame.appendColumns cs ds = some es) :
    es.map Column.name = cs.map Column.name ∧ ds.map Column.name = cs.map Column.name ∧
      ∀ name, cellsOf es name = cellsOf cs name ++ cellsOf ds name := by
  induction cs generalizing ds es with
  | nil =>
    cases ds with
    | nil =>
      cases h
      exact ⟨rfl, rfl, fun _ => rfl⟩
    | cons d ds => cases h
  | cons c cs ih =>
    cases ds with
    | nil => cases h
    | cons d ds =>
      rw [TypedFrame.appendColumns] at h
      split_ifs at h with same
      obtain ⟨rest, others, rfl⟩ := Option.map_eq_some_iff.1 h
      obtain ⟨names, names', cells⟩ := ih others
      refine ⟨?_, ?_, fun name => ?_⟩
      · rw [List.map_cons, List.map_cons, names]
      · rw [List.map_cons, List.map_cons, names', same.1]
      · rw [cellsOf_cons, cellsOf_cons, cellsOf_cons, cells, ← same.1]
        split_ifs <;> rfl

theorem TypedFrame.append_eq_some (made : f.append g = some h) :
    h.names = f.names ∧ g.names = f.names ∧ ∀ name, h.cells name = f.cells name ++ g.cells name := by
  obtain ⟨columns, appended, made⟩ := Option.bind_eq_some_iff.1 made
  have own := ofColumns_eq_some made
  obtain ⟨names, names', cells⟩ := appendColumns_eq_some appended
  refine ⟨?_, names', fun name => ?_⟩
  · rw [TypedFrame.names, own, names, TypedFrame.names]
  · have cells := cells name
    rw [← own] at cells
    exact cells

theorem TypedFrame.foldlM_append {first : TypedFrame} {rest : List TypedFrame}
    (made : rest.foldlM append first = some h) :
    (∀ f ∈ first :: rest, f.names = h.names) ∧
      ∀ name, h.cells name = first.cells name ++ rest.flatMap fun f => f.cells name := by
  induction rest generalizing first with
  | nil =>
    cases made
    exact ⟨by simp, by simp⟩
  | cons g rest ih =>
    rw [List.foldlM_cons] at made
    obtain ⟨both, appended, made⟩ := Option.bind_eq_some_iff.1 made
    obtain ⟨names, names', cells⟩ := append_eq_some appended
    obtain ⟨same, all⟩ := ih made
    have own : first.names = h.names := names.symm.trans (same both List.mem_cons_self)
    refine ⟨?_, fun name => ?_⟩
    · rw [List.forall_mem_cons, List.forall_mem_cons]
      exact ⟨own, names'.trans own, fun f mem => same f (List.mem_cons_of_mem _ mem)⟩
    · rw [all, cells, List.flatMap_cons, List.append_assoc]

/-- The cells of a concatenation. -/
theorem TypedFrame.concat_eq_some {frames : List TypedFrame} (made : concat frames = some h) :
    (∀ f ∈ frames, f.names = h.names) ∧
      ∀ name, h.cells name = frames.flatMap fun f => f.cells name := by
  cases frames with
  | nil => cases made
  | cons first rest =>
    obtain ⟨names, cells⟩ := foldlM_append made
    exact ⟨names, fun name => by rw [cells, List.flatMap_cons]⟩

variable {polars : Polars}

/-- Casts to types that have all values change no cell. -/
theorem castFrame_eq_some (lawful : polars.Lawful) {common : Schema} (names : f.names = common.map Prod.fst)
    (fits : ∀ c ∈ f.columns, ∀ t, (c.name, t) ∈ common →
      c.dtype.CastsTo t ∧ ∀ v, some v ∈ c.cells → v ∈ t.values)
    (made : polars.castFrame f common = some g) :
    g.names = f.names ∧ ∀ name, g.cells name = f.cells name := by
  obtain ⟨columns, cast, made⟩ := Option.bind_eq_some_iff.1 made
  have own := TypedFrame.ofColumns_eq_some made
  have casts := mapM_eq_some cast
  have each (i : Nat) (lt : i < common.length) (lt' : i < columns.length) :
      columns[i].name = common[i].1 ∧ columns[i].cells = f.cells common[i].1 := by
    obtain ⟨c, found, made⟩ := Option.bind_eq_some_iff.1 (casts.get lt lt')
    obtain ⟨hc, name⟩ := TypedFrame.mem_of_column? found
    have listed : (c.name, common[i].2) ∈ common := by
      rw [name]
      exact List.getElem_mem lt
    have exact_ := (lawful.exact c common[i].2 (fits c hc _ listed).2
      (fits c hc _ listed).1).symm.trans made
    have cells : c.cells = f.cells common[i].1 := by
      have own := TypedFrame.cells_of_mem hc
      rw [name] at own
      exact own.symm
    change some _ = some columns[i] at exact_
    rw [← Option.some.inj exact_]
    exact ⟨name, cells⟩
  have columns_names : g.names = f.names := by
    rw [TypedFrame.names, own, names]
    refine List.ext_getElem (by simpa using casts.length_eq.symm) fun i lt lt' => ?_
    rw [List.getElem_map, List.getElem_map]
    exact (each i _ _).1
  refine ⟨columns_names, fun name => ?_⟩
  by_cases mem : name ∈ g.names
  · obtain ⟨d, hd, rfl⟩ := List.mem_map.1 mem
    rw [TypedFrame.cells_of_mem hd]
    rw [own] at hd
    obtain ⟨i, lt, rfl⟩ := List.mem_iff_getElem.1 hd
    have lt' : i < common.length := casts.length_eq ▸ lt
    rw [(each i lt' lt).2, (each i lt' lt).1]
  · rw [TypedFrame.cells_eq_nil mem, TypedFrame.cells_eq_nil (columns_names ▸ mem)]

/-- A concatenation of frames that have been cast exactly. -/
theorem concat_casts (lawful : polars.Lawful) {frames casted : List TypedFrame} {common : Schema}
    {profiles : Profiles} (found : losslessCommonSchema (frames.map TypedFrame.schema) profiles = some common)
    (covered : ∀ f ∈ frames, ∀ c ∈ f.columns, c.dtype.isDecimal = true →
      Covers profiles (ofString c.name) (columnProfile c))
    (casts : frames.mapM (fun f => polars.castFrame f common) = some casted)
    (made : TypedFrame.concat casted = some h) :
    (∀ f ∈ frames, f.names = h.names) ∧ ∀ name, h.cells name = frames.flatMap fun f => f.cells name := by
  have cast := mapM_eq_some casts
  have same : List.Forall₂ (fun f g : TypedFrame => g.names = f.names ∧ ∀ name, g.cells name = f.cells name)
      frames casted := by
    refine List.forall₂_iff_get.2 ⟨cast.length_eq, fun i lt lt' => ?_⟩
    obtain ⟨names, fits⟩ := commonSchema_values found covered (List.get_mem frames ⟨i, lt⟩)
    exact castFrame_eq_some lawful names fits (cast.get lt lt')
  obtain ⟨names, cells⟩ := TypedFrame.concat_eq_some made
  refine ⟨fun f mem => ?_, fun name => ?_⟩
  · obtain ⟨i, lt, rfl⟩ := List.mem_iff_getElem.1 mem
    have lt' : i < casted.length := same.length_eq ▸ lt
    have own : casted[i].names = frames[i].names := (same.get lt lt').1
    rw [← own]
    exact names _ (List.getElem_mem lt')
  · rw [cells]
    clear casts cast made found covered names cells
    induction same with
    | nil => rfl
    | cons first _ ih => rw [List.flatMap_cons, List.flatMap_cons, first.2, ih]

end Frames

/-! ## The names of the chunks -/

section Names

theorem ofChar_lt {c d : Char} (lt : c.toNat < d.toNat) : ofChar c < ofChar d := by
  rw [Fin.lt_def, PyJson.ofChar_val, PyJson.ofChar_val]
  exact lt

theorem chunkName_lt {m n : Nat} (lt : m < n) (small : n < 10 ^ 8) : chunkName m < chunkName n :=
  padded_lt (fun _ _ => ofChar_lt) (by decide) lt small _

end Names

/-! ## What has been staged -/

section Runs

variable {polars : Polars} {maximum : Nat} {written batches : List FoundryBatch}
  {s s' : StagingSession polars.File}

/-- The chunks of some batches, in their order. -/
def chunksOf (polars : Polars) (batches : List FoundryBatch) : Dict PyString polars.File :=
  batches.map fun b => (chunkName b.sequence, polars.writeParquet b.frame)

/-- Every batch is a chunk, and the stored profiles cover its decimal columns. -/
structure Staged (polars : Polars) (written : List FoundryBatch) (s : StagingSession polars.File) :
    Prop where
  spool : s.spool = none
  chunks : s.chunkRoot = some (chunksOf polars written)
  named : Named (readDecimalValueProfiles s.decimalValueProfiles)
  covered : ∀ b ∈ written, ∀ c ∈ b.frame.columns, c.dtype.isDecimal = true →
    Covers (readDecimalValueProfiles s.decimalValueProfiles) (ofString c.name) (columnProfile c)

/-- The batches have increasing numbers of at most eight digits. -/
structure Numbered (batches : List FoundryBatch) : Prop where
  increasing : (batches.map FoundryBatch.sequence).Pairwise (· < ·)
  short : ∀ b ∈ batches, b.sequence < 10 ^ 8

theorem Numbered.chunkNames (numbered : Numbered batches) :
    ((chunksOf polars batches).map Prod.fst).Pairwise (· < ·) := by
  have increasing := List.pairwise_map.1 numbered.increasing
  rw [chunksOf, List.map_map, List.pairwise_map]
  exact increasing.imp_of_mem fun _ later less => chunkName_lt less (numbered.short _ later)

theorem staged_prepared (locator : FoundryUploadLocator) (schema : List (String × String)) :
    Staged polars [] (prepareDestination locator schema) where
  spool := rfl
  chunks := rfl
  named := by
    change Named (readDecimalValueProfiles none)
    rw [read_none]
    exact ⟨List.nodup_nil, by simp⟩
  covered := by simp

theorem Staged.write (staged : Staged polars written s) {batch : FoundryBatch} {result : BatchWriteResult}
    (numbered : Numbered (written ++ [batch]))
    (accepted : writeBatch polars maximum s batch = (.ok result, s')) :
    Staged polars (written ++ [batch]) s' := by
  unfold writeBatch at accepted
  rw [staged.spool] at accepted
  dsimp only at accepted
  split_ifs at accepted with full
  · cases accepted
  obtain ⟨-, rfl⟩ := Prod.mk.inj accepted
  have merged : Named (mergeDecimalValueProfiles [readDecimalValueProfiles s.decimalValueProfiles,
      decimalValueProfiles [batch.frame]]) := by
    refine named_merge fun profiles mem => ?_
    rcases List.mem_cons.1 mem with rfl | mem
    · exact staged.named
    · rw [List.mem_singleton.1 mem]
      exact named_decimalValueProfiles _
  refine ⟨rfl, ?_, ?_, fun b mem c hc decimal => ?_⟩
  · -- the name is new
    have names := (@Numbered.chunkNames polars _ numbered).imp fun less => ne_of_lt less
    rw [chunksOf, List.map_append, List.map_append] at names
    have new : chunkName batch.sequence ∉ (chunksOf polars written).map Prod.fst := fun mem =>
      (List.pairwise_append.1 names).2.2 _ mem _ (List.mem_singleton_self _) rfl
    rw [staged.chunks]
    exact congrArg some ((Dict.set_of_not_mem new _).trans (by simp [chunksOf]))
  · rwa [read_store merged]
  · dsimp only
    rw [read_store merged]
    rcases List.mem_append.1 mem with mem | mem
    · exact covers_merge List.mem_cons_self (staged.covered b mem c hc decimal)
    · rw [List.mem_singleton.1 mem] at hc
      exact covers_merge (List.mem_cons_of_mem _ List.mem_cons_self)
        (covers_decimalValueProfiles (List.mem_singleton_self _) hc decimal)

theorem Staged.writeAll (staged : Staged polars written s) (numbered : Numbered (written ++ batches))
    (accepted : writeBatches polars maximum s batches = .ok s') :
    Staged polars (written ++ batches) s' := by
  induction batches generalizing written s with
  | nil =>
    cases accepted
    rwa [List.append_nil]
  | cons batch batches ih =>
    rw [writeBatches] at accepted
    split at accepted
    · cases accepted
    · rename_i result after first
      have split : written ++ batch :: batches = (written ++ [batch]) ++ batches := by simp
      rw [split] at numbered ⊢
      refine ih (staged.write ?_ first) numbered accepted
      exact ⟨by
        have increasing := numbered.increasing
        rw [List.map_append] at increasing
        exact (List.pairwise_append.1 increasing).1, fun b mem =>
        numbered.short b (List.mem_append_left _ mem)⟩

/-- The chunks are listed by name in the order of their numbers. -/
theorem sortKeys_glob (lawful : polars.Lawful) (numbered : Numbered batches) :
    sortKeys (polars.glob (chunksOf polars batches)) = chunksOf polars batches := by
  have names := @Numbered.chunkNames polars _ numbered
  have distinct : ((polars.glob (chunksOf polars batches)).map Prod.fst).Nodup :=
    ((lawful.listed _).map Prod.fst).nodup_iff.2 (names.imp ne_of_lt)
  rw [PyJson.sortKeys_eq distinct (lawful.listed _)]
  exact List.Pairwise.insertionSort_eq ((List.pairwise_map.1 names).imp le_of_lt)

/-- The file holds the cells of the batches, in their order. -/
def Holds (polars : Polars) (file : polars.File) (batches : List FoundryBatch) : Prop :=
  ∃ f, polars.readParquet file = some f ∧ (∀ b ∈ batches, b.frame.names = f.names) ∧
    ∀ name, f.cells name = batches.flatMap fun b => b.frame.cells name

theorem readChunks (lawful : polars.Lawful) : (chunksOf polars batches).mapM (fun e => polars.readParquet e.2) =
    some (batches.map FoundryBatch.frame) := by
  induction batches with
  | nil => rfl
  | cons b batches ih =>
    rw [chunksOf, List.map_cons, List.mapM_cons, lawful.roundTrip]
    rw [chunksOf] at ih
    rw [ih]
    rfl

theorem Staged.spoolOfChunks (lawful : polars.Lawful) (staged : Staged polars batches s)
    (numbered : Numbered batches) {spool : Option polars.File}
    (made : Foundry.spoolOfChunks polars s = .ok spool) :
    batches = [] ∧ spool = none ∨ ∃ file, spool = some file ∧ Holds polars file batches := by
  unfold Foundry.spoolOfChunks at made
  rw [staged.spool, staged.chunks] at made
  dsimp only at made
  rw [sortKeys_glob lawful numbered] at made
  split_ifs at made with empty
  · cases made
    exact .inl ⟨List.map_eq_nil_iff.1 (List.isEmpty_iff.1 empty), rfl⟩
  · rw [readChunks lawful] at made
    dsimp only at made
    split at made
    · cases made
    · rename_i common found
      split at made
      · cases made
      · rename_i frame concatenated
        cases made
        obtain ⟨casted, casts, concatenated⟩ := Option.bind_eq_some_iff.1 concatenated
        have covered : ∀ f ∈ batches.map FoundryBatch.frame, ∀ c ∈ f.columns, c.dtype.isDecimal = true →
            Covers (readDecimalValueProfiles s.decimalValueProfiles) (ofString c.name)
              (columnProfile c) := by
          rw [List.forall_mem_map]
          exact staged.covered
        obtain ⟨names, cells⟩ := concat_casts lawful found covered casts concatenated
        rw [List.forall_mem_map] at names
        exact .inr ⟨_, rfl, frame, lawful.roundTrip frame, names,
          fun name => by rw [cells, List.flatMap_map]⟩

/-- A file without rows holds no batches. -/
theorem emptySpool_holds (lawful : polars.Lawful) {casefold : String → String} {file : polars.File}
    (made : emptySpool polars casefold s = some file) : Holds polars file [] := by
  unfold emptySpool at made
  split_ifs at made
  obtain ⟨f, columns, rfl⟩ := Option.map_eq_some_iff.1 made
  refine ⟨f, lawful.roundTrip f, by simp, fun name => ?_⟩
  have own := TypedFrame.ofColumns_eq_some columns
  cases found : f.column? name with
  | none => rw [TypedFrame.cells, found, Option.map_none, Option.getD_none, List.flatMap_nil]
  | some c =>
    have mem := (TypedFrame.mem_of_column? found).1
    rw [own] at mem
    obtain ⟨e, -, rfl⟩ := List.mem_map.1 mem
    rw [TypedFrame.cells, found]
    rfl

/-- What `finalize` uploads holds the batches. -/
theorem Staged.upload (lawful : polars.Lawful) {casefold : String → String}
    (staged : Staged polars batches s) (numbered : Numbered batches) {upload : Upload polars.File}
    (made : finalizeUpload polars maximum casefold s = .ok upload) : Holds polars upload.file batches := by
  unfold finalizeUpload at made
  obtain ⟨spool, sunk, made⟩ := bind_eq_ok.1 made
  have holds (file : polars.File) (own : spool.or (emptySpool polars casefold s) = some file) :
      Holds polars file batches := by
    rcases staged.spoolOfChunks lawful numbered sunk with ⟨rfl, rfl⟩ | ⟨chunks, rfl, holds⟩
    · exact emptySpool_holds lawful own
    · cases own
      exact holds
  split at made
  · cases made
  · rename_i file own
    have same : upload.file = file := by
      split_ifs at made with large counted
      · split at made <;> cases made
        rfl
      · split at made
        · cases made
        · split at made <;> cases made
          rfl
    rw [same]
    exact holds file own

end Runs

/-- Staging is lossless.  A common type has all values of the types that it is made for, in whatever order
they are given; and when some batches with consecutive numbers of at most eight digits have been accepted
one after the other, the file that `finalize` uploads has their columns, each with the cells of all batches
in the order of their numbers. -/
theorem staging_is_lossless {polars : Polars} (lawful : polars.Lawful) (casefold : String → String)
    (maximum : Nat) (locator : FoundryUploadLocator) (schema : List (String × String)) :
    (∀ dataTypes t, losslessCommonDtype dataTypes = some t → ∀ d ∈ dataTypes, d.values ⊆ t.values) ∧
    (∀ dataTypes dataTypes' : List Dtype, dataTypes.Perm dataTypes' →
      losslessCommonDtype dataTypes = losslessCommonDtype dataTypes') ∧
    ∀ (batches : List FoundryBatch) (start : Nat) s upload,
      batches.map FoundryBatch.sequence = List.range' start batches.length →
      start + batches.length ≤ 10 ^ 8 →
      writeBatches polars maximum (prepareDestination locator schema) batches = .ok s →
      finalizeUpload polars maximum casefold s = .ok upload →
      ∃ f, polars.readParquet upload.file = some f ∧ (∀ b ∈ batches, b.frame.names = f.names) ∧
        ∀ name, f.cells name = batches.flatMap fun b => b.frame.cells name := by
  refine ⟨fun dataTypes t h d mem => losslessCommonDtype_values h mem,
    fun dataTypes dataTypes' perm => losslessCommonDtype_perm perm,
    fun batches start s upload consecutive few accepted made => ?_⟩
  have numbered : Numbered ([] ++ batches) := by
    rw [List.nil_append]
    refine ⟨?_, fun b mem => ?_⟩
    · rw [consecutive]
      exact List.pairwise_lt_range'
    · have listed := List.mem_map_of_mem (f := FoundryBatch.sequence) mem
      rw [consecutive, List.mem_range'_1] at listed
      omega
  have staged := (@staged_prepared polars locator schema).writeAll numbered accepted
  exact staged.upload lawful numbered made

/-! ## A sample -/

/-- An integer type within another one. -/
def within (type wider : Dtype) : Bool :=
  (integerDtypeRange type).any fun range => (integerDtypeRange wider).any fun range' =>
    range'.1 ≤ range.1 && range.2 ≤ range'.2

theorem values_within {type wider : Dtype} (h : within type wider = true) : type.values ⊆ wider.values := by
  rw [within, Option.any_eq_true] at h
  obtain ⟨range, known, h⟩ := h
  rw [Option.any_eq_true] at h
  obtain ⟨range', known', h⟩ := h
  rw [Bool.and_eq_true, decide_eq_true_eq, decide_eq_true_eq] at h
  rw [values_of_range known, values_of_range known']
  rintro v ⟨n, low, high, rfl⟩
  exact ⟨n, h.1.trans low, high.trans h.2, rfl⟩

open Classical in
/-- Files that hold frames; a directory lists the newest file first. -/
noncomputable def Polars.sample : Polars where
  File := TypedFrame
  size f := f.columns.length
  writeParquet := id
  readParquet := some
  cast c t :=
    if wide : within c.dtype t = true then
      some { c with dtype := t, typed := fun v mem => values_within wide (c.typed v mem) }
    else if fits : ∀ v, some v ∈ c.cells → v ∈ t.values then some { c with dtype := t, typed := fits }
    else none
  glob := List.reverse

theorem Polars.sample_lawful : Polars.sample.Lawful where
  exact c t fits _ := by
    unfold Polars.sample
    dsimp only
    split_ifs <;> rfl
  roundTrip _ := rfl
  listed := List.reverse_perm

/-- A column of one integer. -/
def integerBatch (type : Dtype) (n : Int) (sequence : Nat) (typed : Value.number n ∈ type.values) :
    FoundryBatch where
  frame := {
    columns := [⟨"n", type, [some (.number n)], by simpa using typed⟩]
    distinct := by simp
    rect := by simp }
  rowCount := 1
  byteCount := 8
  sequence

theorem one_mem : Value.number (1 : Int) ∈ Dtype.int8.values := by
  rw [@values_of_range _ (-2 ^ 7, 2 ^ 7 - 1) rfl]
  exact ⟨1, by decide, by decide, rfl⟩

theorem thousand_mem : Value.number (1000 : Int) ∈ Dtype.int16.values := by
  rw [@values_of_range _ (-2 ^ 15, 2 ^ 15 - 1) rfl]
  exact ⟨1000, by decide, by decide, rfl⟩

/-- The ninth batch and the tenth one, whose type is wider. -/
def sampleBatches : List FoundryBatch :=
  [integerBatch .int8 1 9 one_mem, integerBatch .int16 1000 10 thousand_mem]

def sampleLocator : FoundryUploadLocator := { datasetRid := "ri.foundry", branch := "master", fileName := "n" }

theorem staging_of_sample : ∃ s upload f,
    writeBatches Polars.sample 100 (prepareDestination sampleLocator []) sampleBatches = .ok s ∧
      finalizeUpload Polars.sample 100 id s = .ok upload ∧ Polars.sample.readParquet upload.file = some f ∧
      f.cells "n" = [some (.number (1 : Int)), some (.number (1000 : Int))] := by
  obtain ⟨s, upload, accepted, uploaded⟩ : ∃ s upload,
      writeBatches Polars.sample 100 (prepareDestination sampleLocator []) sampleBatches = .ok s ∧
        finalizeUpload Polars.sample 100 id s = .ok upload := ⟨_, _, rfl, rfl⟩
  obtain ⟨f, read, -, cells⟩ := (staging_is_lossless Polars.sample_lawful id 100 sampleLocator []).2.2
    sampleBatches 9 s upload rfl (by decide) accepted uploaded
  exact ⟨s, upload, f, accepted, uploaded, read, cells "n"⟩

end Foundry

end DataMover
