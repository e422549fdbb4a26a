import DataMover.Engine.Guardrails

/-!
# Keys of a projected schema

A key holds of a table when no two rows are equal and non-null on all of its columns.  Removing a
column takes a unique constraint with that column away, but only shortens the primary key: what is left
of it is still declared.  It holds of the transformed rows of every table exactly when it contains a
key of the source schema (`guardrail_projection_keeps_keys_iff`).
-/

namespace DataMover

/-! ## Keys of tables -/

section Tables

variable {N V : Type} (null : V)

/-- No two rows are equal and non-null on the columns `key`; without columns nothing is declared. -/
def KeyHolds (rows : List (N → V)) (key : List N) : Prop :=
  key ≠ [] → rows.Pairwise fun x y => ¬ ∀ n ∈ key, x n = y n ∧ x n ≠ null

variable {null} {rows rows' : List (N → V)} {key key' : List N}

/-- More columns are a key too. -/
theorem KeyHolds.mono (h : KeyHolds null rows key) (some : key ≠ []) (sub : key ⊆ key') :
    KeyHolds null rows key' := by
  intro _
  refine (h some).imp fun differ same => differ fun n hn => ?_
  exact same n (sub hn)

/-- A key holds of fewer rows. -/
theorem KeyHolds.sublist (h : KeyHolds null rows key) (less : rows'.Sublist rows) :
    KeyHolds null rows' key :=
  fun some => (h some).sublist less

/-- A key holds after a transformation that keeps nulls and differences on its columns. -/
theorem KeyHolds.map {f : (N → V) → N → V} (h : KeyHolds null rows key)
    (reflects : ∀ x ∈ rows, ∀ y ∈ rows, ∀ n ∈ key, f x n = f y n → f x n ≠ null →
      x n = y n ∧ x n ≠ null) : KeyHolds null (rows.map f) key := by
  intro some
  rw [List.pairwise_map]
  refine (h some).imp_of_mem fun {x y} hx hy differ same => differ fun n hn => ?_
  exact reflects x hx y hy n hn (same n hn).1 (same n hn).2

/-- Two rows that agree on a key refute it. -/
theorem KeyHolds.two {x y : N → V} (h : KeyHolds null [x, y] key) (some : key ≠ []) :
    ∃ n ∈ key, x n = y n → x n = null := by
  by_contra none
  push Not at none
  exact List.rel_of_pairwise_cons (h some) List.mem_cons_self none

end Tables

/-! ## Rows of frames -/

namespace Frame

/-- The number of rows. -/
def height (f : Frame) : Nat := (f.columns.head?.map (·.values.length)).getD 0

/-- The cell of the column `name` in the row `r`. -/
def cell (f : Frame) (r : Nat) (name : String) : Cell :=
  ((f.column? name).bind fun s => s.values[r]?).getD .null

def rows (f : Frame) : List (String → Cell) := (List.range f.height).map f.cell

variable {f : Frame} {s : Series}

/-- Every column has the height of the frame. -/
theorem length_values (h : s ∈ f.columns) : s.values.length = f.height := by
  unfold height
  cases columns : f.columns with
  | nil =>
    rw [columns] at h
    cases h
  | cons t rest =>
    refine f.rect s h t ?_
    rw [columns]
    exact List.mem_cons_self

theorem cell_of_column? {name : String} (h : f.column? name = some s) (r : Nat) :
    f.cell r name = s.values[r]?.getD .null := by
  rw [cell, h]
  rfl

theorem cell_eq_null {name : String} (h : f.column? name = none) (r : Nat) :
    f.cell r name = .null := by
  rw [cell, h]
  rfl

end Frame

/-- The rows of a table that is moved in batches. -/
def rowsOf (batches : List TransferBatch) : List (String → Cell) :=
  batches.flatMap fun batch => batch.frame.rows

/-- The primary key and the unique constraints. -/
def ObjectSchema.keys (schema : ObjectSchema) : List (List String) :=
  schema.primaryKey :: schema.uniqueConstraints

/-- The rows satisfy the keys of the schema. -/
def ObjectSchema.Satisfied (schema : ObjectSchema) (rows : List (String → Cell)) : Prop :=
  ∀ key ∈ schema.keys, KeyHolds .null rows key

/-! ## The transformation of a row -/

section Transformation

variable {lib : Library} {actions : List (String × ActionName)} {hmacKey : Bytes}

/-- What the actions make of a row. -/
def transformRow (lib : Library) (hmacKey : Bytes) (actions : List (String × ActionName))
    (row : String → Cell) (name : String) : Cell :=
  if name ∈ columnsWith actions .remove then .null
  else if name ∈ columnsWith actions .hash then hashCell lib hmacKey name (row name)
  else row name

theorem hashCell_null (name : String) : hashCell lib hmacKey name .null = .null := if_pos rfl

theorem hashCell_eq_null {name : String} {value : Cell} :
    hashCell lib hmacKey name value = .null ↔ value = .null := by
  unfold hashCell
  split_ifs with h
  · simp [h]
  · simp [h]

/-- The frame of a transformed batch. -/
theorem transformBatchForGuardrails_frame (nodup : (actions.map Prod.fst).Nodup)
    {batch batch' : TransferBatch}
    (h : transformBatchForGuardrails lib batch actions hmacKey = .ok batch') :
    batch'.frame.names = batch.frame.names.filter (· ∉ columnsWith actions .remove) ∧
      ∀ n ∉ columnsWith actions .remove, batch'.frame.column? n =
        (batch.frame.column? n).map fun s => if n ∈ columnsWith actions .hash then
          ⟨n, "String", s.values.map (hashCell lib hmacKey n)⟩ else s := by
  unfold transformBatchForGuardrails at h
  obtain ⟨hashed, hh, h⟩ := bind_eq_ok.1 h
  obtain ⟨frame, hd, h⟩ := bind_eq_ok.1 h
  cases h
  obtain ⟨names, sub, kept, columns⟩ := hashColumns_spec (nodup_columnsWith nodup .hash) hh
  have dropped : frame.names = hashed.names.filter (· ∉ columnsWith actions .remove) ∧
      ∀ n ∉ columnsWith actions .remove, frame.column? n = hashed.column? n := by
    unfold dropRemoved at hd
    split_ifs at hd with none
    · cases hd
      rw [List.isEmpty_iff.1 none]
      exact ⟨by simp, fun _ _ => rfl⟩
    · obtain ⟨hn, -, rest⟩ := Frame.drop_eq_ok hd
      exact ⟨hn, rest⟩
  refine ⟨by rw [dropped.1, names], fun n hn => ?_⟩
  rw [dropped.2 n hn]
  by_cases hash : n ∈ columnsWith actions .hash
  · obtain ⟨s, hs⟩ := Frame.exists_column? (sub n hash)
    rw [columns n hash s hs, hs, Option.map_some, if_pos hash]
  · rw [kept n hash]
    cases batch.frame.column? n with
    | none => rfl
    | some s => rw [Option.map_some, if_neg hash]

/-- A cell of a transformed batch. -/
theorem transformBatchForGuardrails_cell (nodup : (actions.map Prod.fst).Nodup)
    {batch batch' : TransferBatch}
    (h : transformBatchForGuardrails lib batch actions hmacKey = .ok batch') (r : Nat) :
    batch'.frame.cell r = transformRow lib hmacKey actions (batch.frame.cell r) := by
  obtain ⟨names, columns⟩ := transformBatchForGuardrails_frame nodup h
  funext n
  unfold transformRow
  by_cases removed : n ∈ columnsWith actions .remove
  · rw [if_pos removed]
    refine Frame.cell_eq_null (Frame.column?_eq_none ?_) r
    rw [names]
    exact fun mem => absurd removed (by simpa using (List.mem_filter.1 mem).2)
  · rw [if_neg removed]
    cases found : batch.frame.column? n with
    | none =>
      rw [Frame.cell_eq_null found, hashCell_null, ite_self]
      refine Frame.cell_eq_null ?_ r
      rw [columns n removed, found]
      rfl
    | some s =>
      have column := columns n removed
      rw [found, Option.map_some] at column
      rw [Frame.cell_of_column? column, Frame.cell_of_column? found]
      by_cases hash : n ∈ columnsWith actions .hash
      · rw [if_pos hash, if_pos hash, List.getElem?_map]
        cases s.values[r]? with
        | none => exact (hashCell_null n).symm
        | some value => rfl
      · rw [if_neg hash, if_neg hash]

/-- A transformed batch keeps its rows as long as a column is left. -/
theorem transformBatchForGuardrails_height (nodup : (actions.map Prod.fst).Nodup)
    {batch batch' : TransferBatch}
    (h : transformBatchForGuardrails lib batch actions hmacKey = .ok batch') :
    batch'.frame.height = batch.frame.height ∨ batch'.frame.names = [] := by
  obtain ⟨names, columns⟩ := transformBatchForGuardrails_frame nodup h
  cases left : batch'.frame.columns with
  | nil => exact .inr (by rw [Frame.names, left]; rfl)
  | cons t rest =>
    left
    have mem : t ∈ batch'.frame.columns := by
      rw [left]
      exact List.mem_cons_self
    have kept := names ▸ Frame.mem_names mem
    have notRemoved : t.name ∉ columnsWith actions .remove := by
      simpa using (List.mem_filter.1 kept).2
    obtain ⟨s, hs⟩ := Frame.exists_column? (List.mem_filter.1 kept).1
    have column := columns t.name notRemoved
    rw [Frame.column?_eq_some_iff.2 ⟨mem, rfl⟩, hs, Option.map_some, Option.some.injEq] at column
    rw [← Frame.length_values mem, ← Frame.length_values (Frame.column?_eq_some_iff.1 hs).1, column]
    split_ifs
    · exact List.length_map _
    · rfl

/-- The rows of a transformed batch. -/
theorem transformBatchForGuardrails_rows (nodup : (actions.map Prod.fst).Nodup)
    {batch batch' : TransferBatch}
    (h : transformBatchForGuardrails lib batch actions hmacKey = .ok batch') :
    batch'.frame.rows = batch.frame.rows.map (transformRow lib hmacKey actions) ∨
      batch'.frame.rows = [] := by
  rcases transformBatchForGuardrails_height nodup h with same | none
  · left
    unfold Frame.rows
    rw [same, List.map_map]
    exact List.map_congr_left fun r _ => transformBatchForGuardrails_cell nodup h r
  · right
    have columns : batch'.frame.columns = [] := List.map_eq_nil_iff.1 none
    unfold Frame.rows Frame.height
    rw [columns]
    rfl

/-- The rows of a transformed table are transformed rows, each at most once and in their order. -/
theorem transformed_rows (nodup : (actions.map Prod.fst).Nodup) {batches batches' : List TransferBatch}
    (h : List.Forall₂ (fun batch batch' =>
      transformBatchForGuardrails lib batch actions hmacKey = .ok batch') batches batches') :
    (rowsOf batches').Sublist ((rowsOf batches).map (transformRow lib hmacKey actions)) := by
  induction h with
  | nil => exact .refl _
  | cons transformed _ ih =>
    simp only [rowsOf, List.flatMap_cons, List.map_append] at ih ⊢
    refine List.Sublist.append ?_ ih
    rcases transformBatchForGuardrails_rows nodup transformed with same | none
    · rw [same]
    · rw [none]
      exact List.nil_sublist _

/-! ## Hashing keeps differences -/

theorem hexDigit_injective : Function.Injective hexDigit := by decide

/-- A digest can be read back from its hexadecimal text. -/
theorem hexdigest_injective : Function.Injective hexdigest := by
  intro a b same
  replace same := String.ofList_injective same
  induction a generalizing b with
  | nil =>
    cases b with
    | nil => rfl
    | cons y b => simp at same
  | cons x a ih =>
    cases b with
    | nil => simp at same
    | cons y b =>
      simp only [List.flatMap_cons, List.cons_append, List.nil_append, List.cons.injEq] at same
      obtain ⟨high, low, rest⟩ := same
      have div := Fin.mk.inj (hexDigit_injective high)
      have mod := Fin.mk.inj (hexDigit_injective low)
      have equal : x = y := UInt8.toNat.inj (by omega)
      rw [equal, ih rest]

/-- HMAC of column name and encoded value tells the values of one column apart. -/
def HmacInjective (lib : Library) (hmacKey : Bytes) (actions : List (String × ActionName))
    (rows : List (String → Cell)) : Prop :=
  ∀ n ∈ columnsWith actions .hash, ∀ x ∈ rows, ∀ y ∈ rows, x n ≠ .null → y n ≠ .null →
    lib.hmacSha256 hmacKey (utf8 n ++ [0] ++ (x n).encoded) =
      lib.hmacSha256 hmacKey (utf8 n ++ [0] ++ (y n).encoded) → x n = y n

/-- Rows that agree after the transformation on a column that is left agreed before. -/
theorem transformRow_reflects {rows : List (String → Cell)}
    (injective : HmacInjective lib hmacKey actions rows) {x y : String → Cell} (hx : x ∈ rows)
    (hy : y ∈ rows) {n : String} (left : n ∉ columnsWith actions .remove)
    (same : transformRow lib hmacKey actions x n = transformRow lib hmacKey actions y n)
    (present : transformRow lib hmacKey actions x n ≠ .null) : x n = y n ∧ x n ≠ .null := by
  unfold transformRow at same present
  rw [if_neg left] at same present
  by_cases hash : n ∈ columnsWith actions .hash
  · rw [if_pos hash] at same present
    rw [if_neg left, if_pos hash] at same
    have hx' : x n ≠ .null := fun null => present (hashCell_eq_null.2 null)
    have hy' : y n ≠ .null := fun null => present (same.trans (hashCell_eq_null.2 null))
    refine ⟨?_, hx'⟩
    rw [hashCell, hashCell, if_neg hx', if_neg hy'] at same
    exact injective n hash x hx y hy hx' hy' (hexdigest_injective (Cell.text.inj same))
  · rw [if_neg hash] at same present
    rw [if_neg left, if_neg hash] at same
    exact ⟨same, present⟩

/-! ## Which projections keep the keys -/

/-- The columns of the primary key that are not removed. -/
def leftKey (schema : ObjectSchema) (actions : List (String × ActionName)) : List String :=
  schema.primaryKey.filter (· ∉ columnsWith actions .remove)

/-- Nothing is left of the primary key, or a key of the schema lies in what is left. -/
def KeepsKey (schema : ObjectSchema) (actions : List (String × ActionName)) : Prop :=
  leftKey schema actions = [] ∨
    ∃ key ∈ schema.keys, key ≠ [] ∧ key ⊆ leftKey schema actions

theorem mem_leftKey {schema : ObjectSchema} {n : String} :
    n ∈ leftKey schema actions ↔ n ∈ schema.primaryKey ∧ n ∉ columnsWith actions .remove := by
  simp [leftKey]

theorem projectSchemaForGuardrails_keys {schema schema' : ObjectSchema}
    (h : projectSchemaForGuardrails schema actions = .ok schema') :
    schema'.primaryKey = leftKey schema actions ∧
      schema'.uniqueConstraints = schema.uniqueConstraints.filter fun constraint =>
        constraint.all (· ∉ columnsWith actions .remove) := by
  unfold projectSchemaForGuardrails at h
  simp only at h
  split_ifs at h
  cases h
  exact ⟨rfl, rfl⟩

/-- A key of left columns that holds of the rows holds of the transformed rows. -/
theorem keyHolds_transformed {rows : List (String → Cell)} {key : List String}
    (injective : HmacInjective lib hmacKey actions rows) (holds : KeyHolds .null rows key)
    (left : ∀ n ∈ key, n ∉ columnsWith actions .remove) :
    KeyHolds .null (rows.map (transformRow lib hmacKey actions)) key :=
  holds.map fun _ hx _ hy n hn same present =>
    transformRow_reflects injective hx hy (left n hn) same present

/-- Under the condition the transformed rows satisfy the projected keys. -/
theorem KeepsKey.satisfied (nodup : (actions.map Prod.fst).Nodup) {schema schema' : ObjectSchema}
    (keeps : KeepsKey schema actions) (h : projectSchemaForGuardrails schema actions = .ok schema')
    {batches batches' : List TransferBatch}
    (transformed : List.Forall₂ (fun batch batch' =>
      transformBatchForGuardrails lib batch actions hmacKey = .ok batch') batches batches')
    (injective : HmacInjective lib hmacKey actions (rowsOf batches))
    (satisfied : schema.Satisfied (rowsOf batches)) : schema'.Satisfied (rowsOf batches') := by
  obtain ⟨primary, unique⟩ := projectSchemaForGuardrails_keys h
  have fewer := transformed_rows nodup transformed
  intro key hk
  rcases List.mem_cons.1 hk with rfl | hk
  · rw [primary]
    rcases keeps with none | ⟨key, mem, some, sub⟩
    · intro absent
      exact absurd none absent
    · have holds := keyHolds_transformed injective (satisfied key mem) fun n hn =>
        (mem_leftKey.1 (sub hn)).2
      exact (holds.mono some sub).sublist fewer
  · rw [unique, List.mem_filter] at hk
    refine (keyHolds_transformed injective (satisfied key (List.mem_cons_of_mem _ hk.1)) ?_).sublist
      fewer
    intro n hn
    simpa using List.all_eq_true.1 hk.2 n hn

/-! ### Two rows that differ in the removed columns only -/

/-- The columns that the schema's keys and the actions name. -/
def namedColumns (schema : ObjectSchema) (actions : List (String × ActionName)) : List String :=
  (schema.keys.flatten ++ actions.map Prod.fst).dedup

/-- The cell of the second row: it agrees with the first row on what is left of the primary key. -/
def secondCell (schema : ObjectSchema) (actions : List (String × ActionName)) (n : String) : Cell :=
  if n ∈ leftKey schema actions then .text "0"
  else if n ∈ columnsWith actions .remove then .text "1"
  else .null

/-- A table of two rows. -/
def twoRows (schema : ObjectSchema) (actions : List (String × ActionName)) : Frame where
  columns := (namedColumns schema actions).map fun n =>
    ⟨n, "String", [.text "0", secondCell schema actions n]⟩
  nodup := by
    rw [List.map_map]
    exact (List.map_id _).symm ▸ List.nodup_dedup _
  rect s hs t ht := by
    obtain ⟨n, -, rfl⟩ := List.mem_map.1 hs
    obtain ⟨m, -, rfl⟩ := List.mem_map.1 ht
    rfl

theorem twoRows_names (schema : ObjectSchema) :
    (twoRows schema actions).names = namedColumns schema actions := by
  rw [Frame.names, twoRows, List.map_map]
  exact List.map_id _

theorem twoRows_column? {schema : ObjectSchema} {n : String} (h : n ∈ namedColumns schema actions) :
    (twoRows schema actions).column? n =
      some ⟨n, "String", [.text "0", secondCell schema actions n]⟩ :=
  Frame.column?_eq_some_iff.2 ⟨List.mem_map.2 ⟨n, h, rfl⟩, rfl⟩

theorem mem_namedColumns_of_key {schema : ObjectSchema} {key : List String} {n : String}
    (hk : key ∈ schema.keys) (hn : n ∈ key) : n ∈ namedColumns schema actions :=
  List.mem_dedup.2 (List.mem_append_left _ (List.mem_flatten.2 ⟨key, hk, hn⟩))

theorem mem_namedColumns_of_action {schema : ObjectSchema} {action : ActionName} {n : String}
    (h : n ∈ columnsWith actions action) : n ∈ namedColumns schema actions :=
  List.mem_dedup.2 (List.mem_append_right _ (List.mem_map.2 ⟨_, mem_columnsWith.1 h, rfl⟩))

theorem twoRows_height {schema : ObjectSchema} {n : String} (h : n ∈ namedColumns schema actions) :
    (twoRows schema actions).height = 2 :=
  (Frame.length_values (Frame.column?_eq_some_iff.1 (twoRows_column? h)).1).symm

/-- A column of a frame can be replaced by one of the same height. -/
theorem exists_withColumns {frame : Frame} {name : String} {series w : Series}
    (found : frame.column? name = some series) (named : w.name = name)
    (height : w.values.length = series.values.length) :
    ∃ frame', frame.withColumns [w] = .ok frame' := by
  obtain ⟨mem, rfl⟩ := Frame.column?_eq_some_iff.1 found
  have none : [w].filter (fun t => decide (t.name ∉ frame.names)) = [] := by
    simpa [named] using Frame.mem_names mem
  have replaced : ∀ s ∈ frame.columns,
      (([w].find? fun t => decide (t.name = s.name)).getD s).name = s.name ∧
      (([w].find? fun t => decide (t.name = s.name)).getD s).values.length =
        s.values.length := by
    intro s hs
    by_cases same : w.name = s.name
    · simp only [List.find?_singleton, same, decide_true, if_true, Option.getD_some, true_and]
      exact height.trans (frame.rect series mem s hs)
    · simp [same]
  unfold Frame.withColumns Frame.ofColumns
  rw [none, List.append_nil, dif_pos]
  · exact ⟨_, rfl⟩
  · refine ⟨?_, ?_⟩
    · have names : ∀ s ∈ frame.columns, (Series.name ∘ fun s =>
          ([w].find? fun t => decide (t.name = s.name)).getD s) s = s.name :=
        fun s hs => (replaced s hs).1
      rw [List.map_map, List.map_congr_left names]
      exact frame.nodup
    · intro s' hs' t' ht'
      obtain ⟨s, hs, rfl⟩ := List.mem_map.1 hs'
      obtain ⟨t, ht, rfl⟩ := List.mem_map.1 ht'
      rw [(replaced s hs).2, (replaced t ht).2]
      exact frame.rect s hs t ht

/-- Columns of a frame can be hashed. -/
theorem exists_hashColumns {names : List String} {frame : Frame} (sub : ∀ n ∈ names, n ∈ frame.names) :
    ∃ frame', hashColumns lib hmacKey names frame = .ok frame' := by
  induction names generalizing frame with
  | nil => exact ⟨frame, rfl⟩
  | cons name rest ih =>
    obtain ⟨series, found⟩ := Frame.exists_column? (sub name List.mem_cons_self)
    obtain ⟨mem, named⟩ := Frame.column?_eq_some_iff.1 found
    have height : (series.values.map (hashCell lib hmacKey name)).length = series.values.length :=
      List.length_map _
    obtain ⟨middle, hm⟩ := exists_withColumns found (w := ⟨name, "String", _⟩) rfl height
    have kept := Frame.withColumns_names (by
      intro t ht
      rw [List.mem_singleton.1 ht]
      exact sub name List.mem_cons_self) hm
    obtain ⟨frame', hf⟩ := ih fun n hn => kept ▸ sub n (List.mem_cons_of_mem _ hn)
    exact ⟨frame', by rw [hashColumns, found]; exact (congrArg (· >>= _) hm).trans hf⟩

/-- Columns of a frame can be dropped. -/
theorem exists_dropRemoved {removed : List String} {frame : Frame}
    (sub : ∀ n ∈ removed, n ∈ frame.names) : ∃ frame', dropRemoved removed frame = .ok frame' := by
  unfold dropRemoved
  split_ifs
  · exact ⟨frame, rfl⟩
  · unfold Frame.drop Frame.ofColumns
    rw [if_pos sub, dif_pos]
    · exact ⟨_, rfl⟩
    · refine ⟨frame.nodup.sublist (List.filter_sublist.map _), ?_⟩
      intro s hs t ht
      exact frame.rect s (List.mem_filter.1 hs).1 t (List.mem_filter.1 ht).1

theorem exists_transformBatchForGuardrails (nodup : (actions.map Prod.fst).Nodup)
    {batch : TransferBatch}
    (sub : ∀ action, ∀ n ∈ columnsWith actions action, n ∈ batch.frame.names) :
    ∃ batch', transformBatchForGuardrails lib batch actions hmacKey = .ok batch' := by
  obtain ⟨hashed, hh⟩ : ∃ hashed, hashColumns lib hmacKey (columnsWith actions .hash) batch.frame =
    .ok hashed := exists_hashColumns (sub .hash)
  have kept := (hashColumns_spec (nodup_columnsWith nodup .hash) hh).1
  have left : ∀ n ∈ columnsWith actions .remove, n ∈ hashed.names := fun n hn =>
    kept ▸ sub .remove n hn
  obtain ⟨frame, hd⟩ := exists_dropRemoved left
  refine ⟨{ batch with frame := frame, byteCount := lib.estimatedSize frame }, ?_⟩
  unfold transformBatchForGuardrails
  rw [hh]
  change (dropRemoved _ hashed >>= _) = _
  rw [hd]
  rfl

/-- When no key lies in what is left, some table satisfies the schema and loses its key. -/
theorem exists_violation (nodup : (actions.map Prod.fst).Nodup) {schema schema' : ObjectSchema}
    (h : projectSchemaForGuardrails schema actions = .ok schema') (loses : ¬ KeepsKey schema actions) :
    ∃ batch batch', transformBatchForGuardrails lib batch actions hmacKey = .ok batch' ∧
      HmacInjective lib hmacKey actions (rowsOf [batch]) ∧ schema.Satisfied (rowsOf [batch]) ∧
      ¬ schema'.Satisfied (rowsOf [batch']) := by
  unfold KeepsKey at loses
  push Not at loses
  obtain ⟨some, none⟩ := loses
  obtain ⟨n, hn⟩ := List.exists_mem_of_ne_nil _ some
  have named : n ∈ namedColumns schema actions :=
    mem_namedColumns_of_key List.mem_cons_self (mem_leftKey.1 hn).1
  have first : ∀ m ∈ namedColumns schema actions, (twoRows schema actions).cell 0 m = .text "0" := by
    intro m hm
    rw [Frame.cell_of_column? (twoRows_column? hm)]
    rfl
  have second : ∀ m ∈ namedColumns schema actions,
      (twoRows schema actions).cell 1 m = secondCell schema actions m := by
    intro m hm
    rw [Frame.cell_of_column? (twoRows_column? hm)]
    rfl
  have rows : (twoRows schema actions).rows =
      [(twoRows schema actions).cell 0, (twoRows schema actions).cell 1] := by
    rw [Frame.rows, twoRows_height named]
    rfl
  obtain ⟨batch', transformed⟩ : ∃ batch', transformBatchForGuardrails lib
      ⟨twoRows schema actions, 2, 0, 0⟩ actions hmacKey = .ok batch' :=
    exists_transformBatchForGuardrails nodup fun action m hm =>
      (twoRows_names schema).symm ▸ mem_namedColumns_of_action hm
  refine ⟨_, batch', transformed, ?_, ?_, ?_⟩
  · intro m hash x hx y hy
    have notRemoved : m ∉ columnsWith actions .remove := by
      intro hr
      have same := (lookup_eq_some_iff nodup).2 (mem_columnsWith.1 hash)
      rw [(lookup_eq_some_iff nodup).2 (mem_columnsWith.1 hr)] at same
      cases same
    have hm : m ∈ namedColumns schema actions := mem_namedColumns_of_action hash
    have cells : ∀ z ∈ rowsOf [⟨twoRows schema actions, 2, 0, 0⟩], z m ≠ .null →
        z m = .text "0" := by
      intro z hz present
      rw [rowsOf, List.flatMap_singleton, rows] at hz
      rcases List.mem_cons.1 hz with rfl | hz
      · exact first m hm
      · rw [List.mem_singleton.1 hz, second m hm] at present ⊢
        unfold secondCell at present ⊢
        rw [if_neg notRemoved] at present ⊢
        split_ifs at present ⊢
        · rfl
        · exact absurd rfl present
    intro hx' hy' _
    rw [cells x hx hx', cells y hy hy']
  · intro key hk some
    rw [rowsOf, List.flatMap_singleton, rows]
    refine List.pairwise_pair.2 fun same => none key hk some fun m hm => ?_
    have named : m ∈ namedColumns schema actions := mem_namedColumns_of_key hk hm
    have equal := (same m hm).1
    rw [first m named, second m named] at equal
    by_contra outside
    unfold secondCell at equal
    rw [if_neg outside] at equal
    split_ifs at equal with removed
    simp at equal
  · intro satisfied
    have holds := satisfied schema'.primaryKey List.mem_cons_self
    rw [(projectSchemaForGuardrails_keys h).1, rowsOf, List.flatMap_singleton] at holds
    have kept : batch'.frame.rows = (twoRows schema actions).rows.map
        (transformRow lib hmacKey actions) := by
      rcases transformBatchForGuardrails_height nodup transformed with same | gone
      · unfold Frame.rows
        rw [same, List.map_map]
        exact List.map_congr_left fun r _ => transformBatchForGuardrails_cell nodup transformed r
      · have left : n ∈ batch'.frame.names := by
          rw [(transformBatchForGuardrails_frame nodup transformed).1, List.mem_filter]
          exact ⟨(twoRows_names schema).symm ▸ named, by simpa using (mem_leftKey.1 hn).2⟩
        rw [gone] at left
        cases left
    rw [kept, rows] at holds
    obtain ⟨m, hm, differ⟩ := holds.two some
    have removed := (mem_leftKey.1 hm).2
    have named : m ∈ namedColumns schema actions :=
      mem_namedColumns_of_key List.mem_cons_self (mem_leftKey.1 hm).1
    have cells : (twoRows schema actions).cell 0 m = (twoRows schema actions).cell 1 m := by
      rw [first m named, second m named, secondCell, if_pos hm]
    have null := differ (by unfold transformRow; rw [cells])
    unfold transformRow at null
    rw [if_neg removed, first m named] at null
    split_ifs at null
    exact Cell.noConfusion (hashCell_eq_null.1 null)

/-- The projected keys hold of the transformed rows of every table that satisfies the schema exactly
when nothing is left of the primary key or a key of the schema lies in what is left. -/
theorem guardrail_projection_keeps_keys_iff (lib : Library) (hmacKey : Bytes)
    (nodup : (actions.map Prod.fst).Nodup) {schema schema' : ObjectSchema}
    (h : projectSchemaForGuardrails schema actions = .ok schema') :
    (∀ batches batches', List.Forall₂ (fun batch batch' =>
        transformBatchForGuardrails lib batch actions hmacKey = .ok batch') batches batches' →
      HmacInjective lib hmacKey actions (rowsOf batches) → schema.Satisfied (rowsOf batches) →
      schema'.Satisfied (rowsOf batches')) ↔ KeepsKey schema actions := by
  constructor
  · intro always
    by_contra loses
    obtain ⟨batch, batch', transformed, injective, satisfied, violated⟩ : ∃ batch batch',
      transformBatchForGuardrails lib batch actions hmacKey = .ok batch' ∧
        HmacInjective lib hmacKey actions (rowsOf [batch]) ∧ schema.Satisfied (rowsOf [batch]) ∧
        ¬ schema'.Satisfied (rowsOf [batch']) := exists_violation nodup h loses
    exact violated (always [batch] [batch'] (.cons transformed .nil) injective satisfied)
  · intro keeps batches batches' transformed injective satisfied
    exact keeps.satisfied nodup h transformed injective satisfied

/-- A removed column outside of the primary key. -/
theorem guardrail_projection_keeps_keys_sample : ∃ schema' batch',
    projectSchemaForGuardrails ⟨.csvUpload "" "", [⟨"id", "Int64", true, "", []⟩,
      ⟨"ssn", "String", true, "", []⟩], ["id"], [], none, [], [], [], "unknown", "", ""⟩
      [("ssn", .remove)] = .ok schema' ∧
    transformBatchForGuardrails .sample ⟨.sample, 2, 0, 0⟩ [("ssn", .remove)] [] = .ok batch' ∧
    schema'.Satisfied (rowsOf [batch']) := by
  refine ⟨_, _, rfl, rfl, ?_⟩
  have projected : projectSchemaForGuardrails ⟨.csvUpload "" "", [⟨"id", "Int64", true, "", []⟩,
      ⟨"ssn", "String", true, "", []⟩], ["id"], [], none, [], [], [], "unknown", "", ""⟩
      [("ssn", .remove)] = .ok _ := rfl
  refine (guardrail_projection_keeps_keys_iff .sample [] (by decide) projected).2 ?_
    [⟨.sample, 2, 0, 0⟩] _ (.cons rfl .nil) ?_ ?_
  · exact .inr ⟨["id"], List.mem_cons_self, by decide, by decide⟩
  · intro n hash
    cases hash
  · intro key hk _
    rw [List.mem_singleton.1 hk]
    exact List.pairwise_pair.2 fun same => absurd (same "id" List.mem_cons_self).1 (by decide)

end Transformation

/-- Without its second column a composite key no longer tells two rows apart. -/
theorem guardrail_projection_breaks_composite_key : ¬ ∀ (lib : Library) (hmacKey : Bytes)
    (schema schema' : ObjectSchema) (actions : List (String × ActionName))
    (batches batches' : List TransferBatch), (actions.map Prod.fst).Nodup →
    projectSchemaForGuardrails schema actions = .ok schema' →
    List.Forall₂ (fun batch batch' =>
      transformBatchForGuardrails lib batch actions hmacKey = .ok batch') batches batches' →
    HmacInjective lib hmacKey actions (rowsOf batches) → schema.Satisfied (rowsOf batches) →
    schema'.Satisfied (rowsOf batches') := by
  intro claim
  have satisfied := claim .sample [] ⟨.csvUpload "" "", [⟨"order", "Int64", true, "", []⟩,
      ⟨"line", "Int64", true, "", []⟩], ["order", "line"], [], none, [], [], [], "unknown", "", ""⟩ _
    [("line", .remove)] [⟨⟨[⟨"order", "Int64", [.int 1, .int 1]⟩,
      ⟨"line", "Int64", [.int 1, .int 2]⟩], by decide, by decide⟩, 2, 0, 0⟩] _ (by decide) rfl
    (.cons rfl .nil) (fun n hash => by cases hash) ?_
  · have holds := satisfied ["order"] List.mem_cons_self (List.cons_ne_nil _ _)
    exact List.pairwise_pair.1 holds (by decide)
  · intro key hk _
    rw [List.mem_singleton.1 hk]
    exact List.pairwise_pair.2 fun same =>
      absurd (same "line" (List.mem_cons_of_mem _ List.mem_cons_self)).1 (by decide)

end DataMover
