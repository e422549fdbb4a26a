import DataMover.Emulator.Upserts

/-!
# Rehearsing an upsert

A demo run commits an upsert to the emulator where a live run commits it with `PostgresConnector.finalize`.
Both fail or both succeed, with the same rows and the same count, exactly under a condition on the rows of
the source and of the table; a source with two rows of one key does not meet it.
-/

namespace DataMover.Emulator

open Upserting (Conflicts Distinct survivors left)

variable {Value Dtype : Type} [LinearOrder Value]

/-! ## The two commits -/

/-- The column that the table generates. -/
def DemoTable.Generates (table : DemoTable Value Dtype) (c : String) : Prop :=
  table.identityColumn ≠ "" ∧ c = table.identityColumn

/-- The load is an update-upsert that the emulator and the connector accept for the columns of the table:
all columns of the source are known, the key is one of the table and is supplied, and so are the other
members of the primary key, but for a generated column. -/
structure Upsertable (table : DemoTable Value Dtype) (pending : PendingLoad Value Dtype)
    (policy : UpsertPolicy) : Prop where
  mode : pending.mode = .postgresUpsert policy.conflictColumns policy.action
  update : policy.action = "update"
  known : pending.incoming.columns ⊆ table.frame.columns
  required : ∀ c ∈ table.primaryKey, c ∈ pending.incoming.columns ∨ table.Generates c
  key : policy.conflictColumns ∈ table.constraints
  supplied : policy.conflictColumns ⊆ pending.incoming.columns

/-- The names that are tried for the staging sequence. -/
def sequenceCandidate : Nat → String
  | 0 => "dm_row_number"
  | n + 1 => "dm_row_number_" ++ toString (n + 1)

/-- The first candidate that is not in use. -/
def stagingSequence (used : List String) : String :=
  sequenceCandidate (((List.range (used.length + 1)).find? fun n => sequenceCandidate n ∉ used).getD 0)

/-- The load of the connector: values are equal for PostgreSQL when they are the same. -/
def Upsertable.load {table : DemoTable Value Dtype} {pending : PendingLoad Value Dtype}
    {policy : UpsertPolicy} (upsertable : Upsertable table pending policy) : UpsertLoad Value Value where
  keyValue := id
  policy
  session := {
    columns := pending.incoming.columns
    metadata := [("staging_sequence", stagingSequence table.frame.columns)] }
  supplied := upsertable.supplied

section Commits

variable (values : FrameValues Value Dtype)

/-- The rows of the source, with the values that the table takes. -/
def sourceRows (table : DemoTable Value Dtype) (pending : PendingLoad Value Dtype) :
    Option (List (Row Value)) :=
  pending.incoming.rows.mapM
    (Row.castRow (castTo values table.frame.schema) pending.incoming.columns)

/-- The commit of the connector: the rows of the table and the affected rows; `none` when it fails. -/
def liveCommit (exec : Executor Value) (table : DemoTable Value Dtype)
    (pending : PendingLoad Value Dtype) (load : UpsertLoad Value Value) :
    Option (List (Row Value) × Int) := do
  let stage ← stageRows (castTo values table.frame.schema)
    (table.primaryKey.filter (· ∈ load.session.columns)) load.session.columns pending.incoming.rows
  let (rows, manifest) ← load.finalizeUnder table.constraints exec table.frame.rows stage
  return (rows, manifest.rows)

/-- No column of the table has a default, but the generated one. -/
def Plain (exec : Executor Value) (table : DemoTable Value Dtype) : Prop :=
  ∀ k c, ¬ table.Generates c → exec.defaults k c = none

/-- Both commits fail, or both succeed with the same rows and the same count. -/
def Agree (demo : Except Exn (Nat × DemoTable Value Dtype))
    (live : Option (List (Row Value) × Int)) : Prop :=
  match demo, live with
  | .error _, none => True
  | .ok (loaded, table), some (rows, count) => table.frame.rows.Perm rows ∧ (loaded : Int) = count
  | _, _ => False

/-- The emulator matches the connector, whatever PostgreSQL chooses. -/
def Rehearses (table : DemoTable Value Dtype) (pending : PendingLoad Value Dtype)
    (load : UpsertLoad Value Value) : Prop :=
  ∀ exec : Executor Value, Plain exec table →
    Agree (commitTable values (some table) pending) (liveCommit values exec table pending load)

end Commits

/-! ## The condition -/

section Conditions

variable (values : FrameValues Value Dtype) (table : DemoTable Value Dtype)
  (load : UpsertLoad Value Value) (source : List (Row Value))

/-- The emulator takes the rows of a source: they satisfy the constraints, and Polars makes a frame of the
merged rows, whose rows satisfy them too. -/
structure Takes (rows : List (Row Value)) : Prop where
  once : Row.Satisfy table.constraints source
  made : frameOfRows values table.frame.schema (mergedRows load table.frame.rows source) = some rows
  apart : Row.Satisfy table.constraints rows

/-- No values of a constraint come twice, or from a row of another key; where rows are updated, the
connector leaves nothing of them and counts them; and Polars makes a frame of the merged rows. -/
structure Harmless : Prop where
  once : Row.Satisfy table.constraints source
  apart : ∀ t ∈ table.frame.rows, ∀ s ∈ source, ¬ Conflicts load.key t s →
    ¬ Row.Clash table.constraints t s
  /-- A row that is updated has only nulls in the columns that the source omits. -/
  whole : ∀ t ∈ table.frame.rows, ∀ s ∈ source, Conflicts load.key t s →
    ∀ c ∉ load.session.columns, t c = none
  /-- There is a column to update, unless all keys are new. -/
  counted : load.updateColumns ≠ [] ∨
    ∀ t ∈ table.frame.rows, ∀ s ∈ source, ¬ Conflicts load.key t s
  /-- Each value fits the data type that is inferred for its column, and is the same in the frame. -/
  rebuilt : ∃ rows,
    frameOfRows values table.frame.schema (mergedRows load table.frame.rows source) = some rows ∧
      rows.Perm (mergedRows load table.frame.rows source)

end Conditions

section Demo

variable {values : FrameValues Value Dtype} {table : DemoTable Value Dtype}
  {pending : PendingLoad Value Dtype} {policy : UpsertPolicy}

/-- The generated column of a table, if it has one, is supplied. -/
theorem Upsertable.identity_supplied (sound : table.Sound) (upsertable : Upsertable table pending policy) :
    ¬ IdentityOmitted pending.incoming table := by
  rintro ⟨generated, omitted⟩
  obtain ⟨primary, others⟩ := sound.identity generated
  obtain ⟨listed, -⟩ := List.mem_filter.1 upsertable.key
  rw [primary, others, List.mem_singleton] at listed
  exact omitted (upsertable.supplied (listed ▸ List.mem_singleton.2 rfl))

theorem Upsertable.primaryKey_supplied (sound : table.Sound)
    (upsertable : Upsertable table pending policy) : table.primaryKey ⊆ pending.incoming.columns := by
  intro c hc
  rcases upsertable.required c hc with supplied | ⟨generated, rfl⟩
  · exact supplied
  · by_contra omitted
    exact upsertable.identity_supplied sound ⟨generated, omitted⟩

omit [LinearOrder Value] in
/-- A row with a null in one of some columns. -/
theorem not_complete {columns : List String} {rows : List (Row Value)} :
    (∃ name ∈ columns, ∃ row ∈ rows, (row name).isNone = true) ↔
      ∃ row ∈ rows, ¬ Row.Complete columns row := by
  simp only [Row.Complete, Option.isNone_iff_eq_none, not_forall, not_not, exists_prop]
  exact ⟨fun ⟨name, hn, row, hr, null⟩ => ⟨row, hr, name, hn, null⟩,
    fun ⟨row, hr, name, hn, null⟩ => ⟨name, hn, row, hr, null⟩⟩

/-- The coercion is the conversion of the rows of the source. -/
theorem coerceForTable_eq (sound : table.Sound) (upsertable : Upsertable table pending policy) :
    coerceForTable values pending.incoming table =
      match sourceRows values table pending with
      | none => .error (refusal .unsupportedType
          "The source values are incompatible with the destination schema.")
      | some rows =>
        if ∃ name ∈ table.primaryKey, ∃ row ∈ rows, (row name).isNone then
          .error (refusal .schemaDrift
            "The source contains null values for a required destination key.")
        else .ok { schema := table.frame.schema, rows } := by
  have supplied : withIdentity values pending.incoming table = pending.incoming :=
    if_neg (upsertable.identity_supplied sound)
  have known : ¬ ∃ name ∈ pending.incoming.columns, name ∉ table.frame.columns :=
    fun ⟨name, hn, unknown⟩ => unknown (upsertable.known hn)
  have required : ¬ ∃ name ∈ table.frame.columns,
      name ∉ pending.incoming.columns ∧ name ∈ table.primaryKey :=
    fun ⟨name, _, omitted, hn⟩ => omitted (upsertable.primaryKey_supplied sound hn)
  rw [coerceForTable]
  simp only [supplied, if_neg known, if_neg required, Row.castRow_restrict upsertable.known]
  rfl

omit [LinearOrder Value] in
theorem Upsertable.distinct (upsertable : Upsertable table pending policy) {rows : List (Row Value)}
    (satisfied : Row.Satisfy table.constraints rows) : Distinct upsertable.load.key rows :=
  satisfied.imp fun apart conflict => apart ⟨_, upsertable.key, (conflicts_iff rfl).1 conflict⟩

theorem Upsertable.commitTable_eq (upsertable : Upsertable table pending policy) (sound : table.Sound) :
    commitTable values (some table) pending = (do
      let incoming ← coerceForTable values pending.incoming table
      enforceConstraints { table with frame := incoming, identityColumn := "" }
      let (frame, loaded) ← upsert values table.frame incoming policy.conflictColumns "update" []
      enforced loaded { table with frame }) := by
  have omitted : decide (IdentityOmitted pending.incoming table) = false :=
    decide_eq_false (upsertable.identity_supplied sound)
  have known : ¬ policy.conflictColumns ∉ table.constraints := not_not.2 upsertable.key
  have mode := upsertable.mode
  rw [upsertable.update] at mode
  simp only [commitTable, mode, commitUpsert, omitted, if_neg known]
  rfl

/-- A check that does not pass raises. -/
theorem exists_error {x : Except Exn Unit} (h : x ≠ .ok ()) : ∃ e, x = .error e := by
  cases x with
  | error e => exact ⟨e, rfl⟩
  | ok u => exact absurd rfl h

omit [LinearOrder Value] in
/-- The rows of the source have values in the columns of the source only. -/
theorem framed_sourceRows {source : List (Row Value)}
    (converted : sourceRows values table pending = some source) :
    ∀ s ∈ source, ∀ c ∉ pending.incoming.columns, s c = none := by
  intro s mem c hc
  obtain ⟨row, -, cast⟩ := Paging.exists_of_mem_mapM converted mem
  exact Row.castRow_null cast hc

/-- A merged row is one of the table or of the source. -/
theorem mem_mergedRows {load : UpsertLoad Value Value} {rows source : List (Row Value)}
    {row : Row Value} (mem : row ∈ mergedRows load rows source) : row ∈ rows ∨ row ∈ source := by
  rcases List.mem_append.1 mem with mem | mem
  · obtain ⟨t, ht, rfl⟩ := List.mem_map.1 mem
    cases found : source.find? fun s => Conflicts load.key t s with
    | none => exact .inl ht
    | some s => exact .inr (List.mem_of_find?_eq_some found)
  · exact .inr (List.mem_filter.1 mem).1

/-- Where a row has nulls. -/
def nulls (row : Row Value) (c : String) : Bool := (row c).isNone

theorem Upsertable.perm_mergedRows (upsertable : Upsertable table pending policy)
    (sound : table.Sound) {source : List (Row Value)} (once : Row.Satisfy table.constraints source) :
    (mergedRows upsertable.load table.frame.rows source).Perm
      (left upsertable.load.upserting table.frame.rows source ++ source) := by
  have literal : upsertable.load.keyValue = id := rfl
  have satisfied := (enforceConstraints_ok.1 sound.enforced).2
  exact Emulator.perm_mergedRows literal (upsertable.distinct satisfied) (upsertable.distinct once)

/-- The frame of the merged rows has the nulls of these rows. -/
theorem map_nulls_frameOfRows (sound : table.Sound) (upsertable : Upsertable table pending policy)
    {source rows : List (Row Value)} (converted : sourceRows values table pending = some source)
    (made : frameOfRows values table.frame.schema
      (mergedRows upsertable.load table.frame.rows source) = some rows) :
    rows.map nulls = (mergedRows upsertable.load table.frame.rows source).map nulls := by
  have framed : ∀ row ∈ mergedRows upsertable.load table.frame.rows source,
      ∀ c ∉ table.frame.columns, row c = none := by
    intro row mem c hc
    rcases mem_mergedRows mem with mem | mem
    · exact sound.framed row mem c hc
    · exact framed_sourceRows converted row mem c fun supplied => hc (upsertable.known supplied)
  have cast := Paging.mapM_eq_some made
  refine List.ext_getElem (by simpa using cast.length_eq.symm) fun i hi hi' => ?_
  rw [List.length_map] at hi hi'
  rw [List.getElem_map, List.getElem_map]
  funext c
  rw [nulls, nulls, Bool.eq_iff_iff, Option.isNone_iff_eq_none, Option.isNone_iff_eq_none]
  exact Row.castRow_eq_none_iff (cast.get hi' hi) (framed _ (List.getElem_mem hi')) c

/-- **The emulated commit** of rows that the table takes fails exactly when the emulator does not take
them. -/
theorem demo_cases (sound : table.Sound) (upsertable : Upsertable table pending policy)
    {source : List (Row Value)} (converted : sourceRows values table pending = some source)
    (complete : ∀ row ∈ source, Row.Complete table.primaryKey row) :
    (∃ rows, Takes values table upsertable.load source rows ∧
        commitTable values (some table) pending = .ok (source.length,
          { table with frame := { schema := table.frame.schema, rows } })) ∨
      (∃ e, commitTable values (some table) pending = .error e) ∧
        ∀ rows, ¬ Takes values table upsertable.load source rows := by
  obtain ⟨primary, satisfied⟩ := enforceConstraints_ok.1 sound.enforced
  have valid : ¬ ∃ name ∈ table.primaryKey, ∃ row ∈ source, (row name).isNone = true :=
    fun h => (not_complete.1 h).elim fun row hr => hr.2 (complete row hr.1)
  rw [upsertable.commitTable_eq sound, coerceForTable_eq sound upsertable, converted]
  simp only [if_neg valid]
  by_cases once : Row.Satisfy table.constraints source
  · have checked : enforceConstraints ({ table with
        frame := { schema := table.frame.schema, rows := source }, identityColumn := "" } :
          DemoTable Value Dtype) = .ok () := enforceConstraints_ok.2 ⟨complete, once⟩
    have literal : upsertable.load.keyValue = id := rfl
    have merged : upsert values table.frame { schema := table.frame.schema, rows := source }
        policy.conflictColumns "update" [] = _ :=
      upsert_eq literal (upsertable.distinct satisfied) (upsertable.distinct once)
    cases made : frameOfRows values table.frame.schema
        (mergedRows upsertable.load table.frame.rows source) with
    | none =>
      rw [made] at merged
      refine .inr ⟨⟨.other "PolarsError", ?_⟩, fun rows takes => ?_⟩
      · simp only [Except.bind, bind, checked, merged]
      · cases made.symm.trans takes.made
    | some rows =>
      rw [made] at merged
      have whole : ∀ row ∈ rows, Row.Complete table.primaryKey row := by
        intro row mem c hc null
        have same := List.mem_map_of_mem (f := nulls) mem
        rw [map_nulls_frameOfRows sound upsertable converted made] at same
        obtain ⟨before, hb, same⟩ := List.mem_map.1 same
        have null : before c = none := by
          rw [← Option.isNone_iff_eq_none, ← nulls, same, nulls, null, Option.isNone_none]
        rcases mem_mergedRows hb with hb | hb
        · exact primary before hb c hc null
        · exact complete before hb c hc null
      have final : enforceConstraints ({ table with frame := { schema := table.frame.schema, rows } } :
          DemoTable Value Dtype) = .ok () ↔ Row.Satisfy table.constraints rows :=
        enforceConstraints_ok.trans (and_iff_right whole)
      by_cases apart : Row.Satisfy table.constraints rows
      · refine .inl ⟨rows, ⟨once, made, apart⟩, ?_⟩
        exact bind_eq_ok.2 ⟨_, rfl, bind_eq_ok.2 ⟨(), checked, bind_eq_ok.2 ⟨_, merged,
          enforced_ok.2 ⟨final.2 apart, rfl⟩⟩⟩⟩
      · obtain ⟨e, raised⟩ := exists_error (mt final.1 apart)
        refine .inr ⟨⟨e, ?_⟩, fun rows' takes => ?_⟩
        · simp only [Except.bind, bind, checked, merged, enforced, raised]
        · cases made.symm.trans takes.made
          exact apart takes.apart
  · have unchecked : enforceConstraints ({ table with
        frame := { schema := table.frame.schema, rows := source }, identityColumn := "" } :
          DemoTable Value Dtype) ≠ .ok () := fun h => once (enforceConstraints_ok.1 h).2
    obtain ⟨e, raised⟩ := exists_error unchecked
    refine .inr ⟨⟨e, ?_⟩, fun rows takes => once takes.once⟩
    simp only [Except.bind, bind, raised]

end Demo

/-! ## The live commit -/

section Live

variable {values : FrameValues Value Dtype} {table : DemoTable Value Dtype}
  {pending : PendingLoad Value Dtype} {policy : UpsertPolicy}
  (upsertable : Upsertable table pending policy) {exec : Executor Value} {source : List (Row Value)}

theorem sequenceCandidate_ne (n : Nat) : sequenceCandidate n ≠ "" := by
  cases n with
  | zero => decide
  | succ n =>
    intro h
    have length := congrArg String.length h
    rw [sequenceCandidate, String.length_append] at length
    exact absurd length (by simp)

omit [LinearOrder Value] in
theorem Upsertable.sequenced : upsertable.load.stagingSequence ≠ "" :=
  sequenceCandidate_ne _

/-- What is not supplied is null in an inserted row: a generated column is supplied. -/
theorem Upsertable.plain (sound : table.Sound) (plain : Plain exec table) (k : Nat) (s : Row Value) :
    upsertable.load.insertRow (exec.defaults k) s = upsertable.load.insertRow (fun _ => none) s := by
  funext c
  unfold UpsertLoad.insertRow
  split_ifs with supplied
  · rfl
  · refine plain k c fun ⟨generated, same⟩ => ?_
    exact upsertable.identity_supplied sound ⟨generated, fun h => supplied (same ▸ h)⟩

/-- The order in which the connector writes the rows. -/
def Upsertable.order (exec : Executor Value) (source : List (Row Value)) : List (Row Value) :=
  (upsertable.load.source exec (numberRows source)).map StagedRow.cells

theorem Upsertable.order_perm (exec : Executor Value) (source : List (Row Value)) :
    (upsertable.order exec source).Perm (survivors upsertable.load.key source) := by
  have perm := UpsertLoad.source_perm exec upsertable.sequenced (numbered_numberRows source)
    (List.Perm.refl (numberRows source))
  rwa [cells_numberRows] at perm

/-- **The live commit** of rows that the table takes fails exactly when, after some first rows, a written
row clashes with a row that is left or with another written row. -/
theorem live_cases (sound : table.Sound) (plain : Plain exec table)
    (converted : sourceRows values table pending = some source)
    (complete : ∀ row ∈ source, Row.Complete table.primaryKey row) :
    (∃ rows count, liveCommit values exec table pending upsertable.load = some (rows, count) ∧
        rows.Perm (left upsertable.load.upserting table.frame.rows (upsertable.order exec source) ++
          (upsertable.order exec source).map
            (upsertable.load.upserting.written (fun _ => none) table.frame.rows)) ∧
        count = (if upsertable.load.updateColumns ≠ [] then ((upsertable.order exec source).length : Int)
          else (upsertable.order exec source).countP
            fun s => ∀ t ∈ table.frame.rows, ¬ Conflicts upsertable.load.key t s) ∧
        ∀ first, first <+: upsertable.order exec source → first ≠ [] →
          upsertable.load.upserting.Clear (fun _ => none) table.frame.rows
            (Row.Clash table.constraints) first) ∨
      (liveCommit values exec table pending upsertable.load = none ∧
        ∃ first, first <+: upsertable.order exec source ∧ first ≠ [] ∧
          ¬ upsertable.load.upserting.Clear (fun _ => none) table.frame.rows
            (Row.Clash table.constraints) first) := by
  have satisfied := (enforceConstraints_ok.1 sound.enforced).2
  have distinct := upsertable.distinct satisfied
  have apart : Distinct upsertable.load.key (upsertable.order exec source) :=
    (Upserting.distinct_survivors _).perm (upsertable.order_perm exec source).symm
  have required : ∀ row ∈ source, Row.Complete
      (table.primaryKey.filter (· ∈ upsertable.load.session.columns)) row :=
    fun row mem c hc => complete row mem c (List.mem_filter.1 hc).1
  have stage : stageRows (castTo values table.frame.schema)
      (table.primaryKey.filter (· ∈ upsertable.load.session.columns)) upsertable.load.session.columns
      pending.incoming.rows = some (numberRows source) :=
    Option.bind_eq_some_iff.2 ⟨source, converted, if_pos required⟩
  rw [liveCommit, stage]
  rcases UpsertLoad.finalizeUnder_eq upsertable.sequenced upsertable.update
    (upsertable.plain sound plain) distinct satisfied (numbered_numberRows source)
    (List.Perm.refl _) with ⟨manifest, result, count, clear⟩ | ⟨refused, unclear⟩
  · refine .inl ⟨_, _, Option.bind_eq_some_iff.2 ⟨_, rfl, Option.bind_eq_some_iff.2 ⟨_, result, rfl⟩⟩,
      ?_, ?_, clear⟩
    · exact Upserting.perm_upsertAll (upsertable.plain sound plain) distinct apart
    · rw [count, Upsertable.order, List.length_map]
  · refine .inr ⟨?_, unclear⟩
    rw [Option.bind_eq_bind, Option.bind_some, refused]
    rfl

end Live

/-! ## Agreement -/

section Agreement

variable {values : FrameValues Value Dtype} {table : DemoTable Value Dtype}
  {pending : PendingLoad Value Dtype} {policy : UpsertPolicy}
  (upsertable : Upsertable table pending policy) {source : List (Row Value)}

omit [LinearOrder Value] in
/-- An update leaves the row of the source, where the other columns are null. -/
theorem Upsertable.updateRow_eq {s t : Row Value}
    (framed : ∀ c ∉ pending.incoming.columns, s c = none)
    (conflict : Conflicts upsertable.load.key t s)
    (nulls : ∀ c ∉ upsertable.load.session.columns, t c = none) :
    upsertable.load.updateRow t s = s := by
  have shares := (conflicts_iff rfl).1 conflict
  funext c
  by_cases update : c ∈ upsertable.load.updateColumns
  · exact UpsertLoad.updateRow_of_mem update t s
  · rw [UpsertLoad.updateRow_of_not_mem update]
    by_cases supplied : c ∈ pending.incoming.columns
    · have member : c ∈ upsertable.load.policy.conflictColumns := by
        by_contra other
        exact update (UpsertLoad.mem_updateColumns.2 ⟨supplied, other⟩)
      exact shares.2 c member
    · rw [nulls c supplied, framed c supplied]

/-- A row of the source is written as it is, where the updated rows have no other values. -/
theorem Upsertable.written_eq (sound : table.Sound)
    (converted : sourceRows values table pending = some source) {s : Row Value} (mem : s ∈ source)
    (whole : ∀ t ∈ table.frame.rows, Conflicts upsertable.load.key t s →
      ∀ c ∉ upsertable.load.session.columns, t c = none) :
    upsertable.load.upserting.written (fun _ => none) table.frame.rows s = s := by
  have framed := framed_sourceRows converted s mem
  by_cases conflict : ∃ t ∈ table.frame.rows, Conflicts upsertable.load.key t s
  · obtain ⟨t, ht, conflict⟩ := conflict
    have distinct := upsertable.distinct (enforceConstraints_ok.1 sound.enforced).2
    exact (Upserting.written_of_conflict distinct ht conflict).trans
      (upsertable.updateRow_eq framed conflict (whole t ht conflict))
  · refine (Upserting.written_of_fresh fun t ht h => conflict ⟨t, ht, h⟩).trans ?_
    funext c
    by_cases supplied : c ∈ pending.incoming.columns
    · exact if_pos supplied
    · exact (if_neg supplied).trans (framed c supplied).symm

/-- In a harmless load every order of the rows is clear of clashes. -/
theorem Harmless.clear (sound : table.Sound) (converted : sourceRows values table pending = some source)
    (harmless : Harmless values table upsertable.load source) {order first : List (Row Value)}
    (perm : order.Perm source) (short : first <+: order) :
    upsertable.load.upserting.Clear (fun _ => none) table.frame.rows
      (Row.Clash table.constraints) first := by
  have mem {s : Row Value} (hs : s ∈ first) : s ∈ source := perm.mem_iff.1 (short.subset hs)
  have written {s : Row Value} (hs : s ∈ first) :=
    upsertable.written_eq sound converted (mem hs) fun t ht => harmless.whole t ht s (mem hs)
  refine ⟨fun t ht s hs => ?_, ?_⟩
  · obtain ⟨ht, unmet⟩ := Upserting.mem_left.1 ht
    rw [written hs]
    exact harmless.apart t ht s (mem hs) (unmet s hs)
  · have once : Row.Satisfy table.constraints first :=
      ((Row.satisfy_perm perm).2 harmless.once).sublist short.sublist
    refine List.Pairwise.imp_of_mem (fun {a b} ha hb apart => ?_) once
    rw [written ha, written hb]
    exact apart

/-- The rows that are left depend only on the rows that come. -/
theorem left_congr {load : UpsertLoad Value Value} {rows source source' : List (Row Value)}
    (same : ∀ s, s ∈ source ↔ s ∈ source') :
    left load.upserting rows source = left load.upserting rows source' :=
  List.filter_congr fun t _ => by simp only [same]

/-- The emulator takes a harmless load. -/
theorem Harmless.takes (sound : table.Sound) (harmless : Harmless values table upsertable.load source) :
    ∃ rows, Takes values table upsertable.load source rows ∧
      rows.Perm (left upsertable.load.upserting table.frame.rows source ++ source) := by
  have satisfied := (enforceConstraints_ok.1 sound.enforced).2
  have merged := upsertable.perm_mergedRows sound harmless.once
  obtain ⟨rows, made, same⟩ := harmless.rebuilt
  refine ⟨rows, ⟨harmless.once, made, ?_⟩, same.trans merged⟩
  refine (Row.satisfy_perm (same.trans merged)).2 (Row.satisfy_append.2
    ⟨satisfied.sublist List.filter_sublist, harmless.once, fun t ht s hs => ?_⟩)
  obtain ⟨ht, unmet⟩ := Upserting.mem_left.1 ht
  exact harmless.apart t ht s hs (unmet s hs)

/-- A harmless load is committed alike. -/
theorem Harmless.agree (sound : table.Sound) (converted : sourceRows values table pending = some source)
    (complete : ∀ row ∈ source, Row.Complete table.primaryKey row)
    (harmless : Harmless values table upsertable.load source) :
    Rehearses values table pending upsertable.load := by
  intro exec plain
  have perm : (upsertable.order exec source).Perm source := by
    have perm := upsertable.order_perm exec source
    rwa [Upserting.survivors_of_distinct (upsertable.distinct harmless.once)] at perm
  obtain ⟨rows, taken, same⟩ := harmless.takes upsertable sound
  rcases demo_cases sound upsertable converted complete with ⟨rows', takes, committed⟩ |
    ⟨-, refused⟩
  · obtain rfl : rows = rows' := Option.some.inj (taken.made.symm.trans takes.made)
    rcases live_cases upsertable sound plain converted complete with
      ⟨liveRows, count, live, perm', counted, -⟩ | ⟨-, first, short, -, unclear⟩
    · rw [committed, live]
      have written : (upsertable.order exec source).map
          (upsertable.load.upserting.written (fun _ => none) table.frame.rows) =
            upsertable.order exec source := by
        refine (List.map_congr_left fun s hs => ?_).trans (List.map_id' _)
        exact upsertable.written_eq sound converted (perm.mem_iff.1 hs)
          fun t ht => harmless.whole t ht s (perm.mem_iff.1 hs)
      have length : ((upsertable.order exec source).length : Int) = source.length := by
        rw [perm.length_eq]
      rw [written, left_congr fun s => perm.mem_iff] at perm'
      refine ⟨same.trans ((perm.append_left _).symm.trans perm'.symm), ?_⟩
      rw [counted]
      split_ifs with nonKey
      · exact length.symm
      · have fresh := harmless.counted.resolve_left nonKey
        rw [← length, Int.natCast_inj]
        refine (List.countP_eq_length.2 fun s hs => ?_).symm
        exact decide_eq_true fun t ht => fresh t ht s (perm.mem_iff.1 hs)
    · exact absurd (harmless.clear upsertable sound converted perm short) unclear
  · exact absurd taken (refused rows)

end Agreement

end DataMover.Emulator
