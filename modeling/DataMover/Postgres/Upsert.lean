import DataMover.Readiness.UpsertKeys
import DataMover.Upserting

/-!
# The update-upsert of PostgreSQL

`PostgresConnector.finalize` writes the staged rows of an upsert with one statement: the rows whose key
has a null member, and of each other key the row with the last staging number.  The destination is then
what it would be if the staged rows had been upserted one at a time, in the order of their arrival, and
the statement affects as many rows as `_upsert_source_row_count` has counted.
-/

namespace DataMover

open Upserting (Conflicts Distinct survivors)

/-- A row, by the names of its columns; null is `none`. -/
abbrev Row (Value : Type) := String → Option Value

/-- A row of the staging table, with its number. -/
structure StagedRow (Value : Type) where
  sequence : Nat
  cells : Row Value

/-- What PostgreSQL chooses: the order of the rows of a query, and the columns that an inserted row does
not supply. -/
structure Executor (Value : Type) where
  arrange : List (StagedRow Value) → List (StagedRow Value)
  defaults : Nat → Row Value
  arrange_perm : ∀ rows, (arrange rows).Perm rows

/-- The load of an upsert.  Two values of a key column are equal for PostgreSQL when their `keyValue`
is; the columns of the key are supplied. -/
structure UpsertLoad (Value Key : Type) where
  keyValue : Value → Key
  policy : UpsertPolicy
  session : LoadSession
  supplied : policy.conflictColumns ⊆ session.columns

namespace UpsertLoad

/-! ## Rows and keys -/

section Rows

variable {Value Key : Type} (load : UpsertLoad Value Key)

/-- `update_columns`. -/
def updateColumns : List String :=
  load.session.columns.filter (· ∉ load.policy.conflictColumns)

/-- `load_session.metadata.get("staging_sequence")`. -/
def stagingSequence : String := (load.session.metadata.lookup "staging_sequence").getD ""

/-- `nullable`. -/
def nullable (row : Row Value) : Bool := load.policy.conflictColumns.any fun c => (row c).isNone

/-- The values of the conflict columns. -/
def members (row : Row Value) : List Key :=
  load.policy.conflictColumns.filterMap fun c => (row c).map load.keyValue

/-- The key of a row, for the unique index on the conflict columns: a null is equal to nothing. -/
def key (row : Row Value) : Option (List Key) :=
  if load.nullable row then none else some (load.members row)

/-- The supplied columns of a row: a member of the key up to equality, the others exactly. -/
def view (row : Row Value) : List (Option (Key ⊕ Value)) :=
  load.session.columns.map fun c =>
    if c ∈ load.policy.conflictColumns then (row c).map fun v => .inl (load.keyValue v)
    else (row c).map .inr

/-- The supplied columns of a row. -/
def cells (row : Row Value) : List (Option Value) := load.session.columns.map row

/-- `SET` of the columns to update. -/
def updateRow (t s : Row Value) : Row Value := fun c => if c ∈ load.updateColumns then s c else t c

/-- The row that is inserted, with the columns that it does not supply. -/
def insertRow (d s : Row Value) : Row Value := fun c => if c ∈ load.session.columns then s c else d c

variable {load}

theorem mem_updateColumns {c : String} :
    c ∈ load.updateColumns ↔ c ∈ load.session.columns ∧ c ∉ load.policy.conflictColumns := by
  simp [updateColumns]

theorem updateRow_of_mem {c : String} (h : c ∈ load.updateColumns) (t s : Row Value) :
    load.updateRow t s c = s c := if_pos h

theorem updateRow_of_not_mem {c : String} (h : c ∉ load.updateColumns) (t s : Row Value) :
    load.updateRow t s c = t c := if_neg h

theorem insertRow_of_mem {c : String} (h : c ∈ load.session.columns) (d s : Row Value) :
    load.insertRow d s c = s c := if_pos h

theorem key_congr {row row' : Row Value} (same : ∀ c ∈ load.policy.conflictColumns, row c = row' c) :
    load.key row = load.key row' := by
  have nullable : load.nullable row = load.nullable row' := by
    unfold UpsertLoad.nullable
    rw [Bool.eq_iff_iff, List.any_eq_true, List.any_eq_true]
    exact exists_congr fun c => and_congr_right fun hc => by rw [same c hc]
  have members : load.members row = load.members row' :=
    List.filterMap_congr fun c hc => by rw [same c hc]
  rw [key, key, nullable, members]

/-- Rows with one key agree on each column of the key. -/
theorem map_keyValue_of_key_eq {row row' : Row Value} (present : load.key row ≠ none)
    (same : load.key row = load.key row') {c : String} (hc : c ∈ load.policy.conflictColumns) :
    (row c).map load.keyValue = (row' c).map load.keyValue := by
  have unnull (r : Row Value) (h : load.key r ≠ none) : load.nullable r = false := by
    by_contra hn
    exact h (if_pos (by simpa using hn))
  have nullable := unnull row present
  have nullable' := unnull row' (same ▸ present)
  rw [key, key, nullable, nullable'] at same
  have members : load.members row = load.members row' := by simpa using same
  unfold UpsertLoad.members at members
  unfold UpsertLoad.nullable at nullable nullable'
  generalize load.policy.conflictColumns = columns at hc members nullable nullable'
  induction columns with
  | nil => cases hc
  | cons d rest ih =>
    rw [List.any_cons, Bool.or_eq_false_iff] at nullable nullable'
    obtain ⟨v, hv⟩ := Option.isSome_iff_exists.1 (by simpa using nullable.1 : (row d).isSome)
    obtain ⟨v', hv'⟩ := Option.isSome_iff_exists.1 (by simpa using nullable'.1 : (row' d).isSome)
    rw [List.filterMap_cons, List.filterMap_cons, hv, hv'] at members
    simp only [Option.map_some, List.cons.injEq] at members
    rcases List.mem_cons.1 hc with rfl | hc
    · rw [hv, hv', Option.map_some, Option.map_some, members.1]
    · exact ih hc members.2 nullable.2 nullable'.2

variable (load)

/-- `INSERT INTO … ON CONFLICT … DO UPDATE SET …`, for a row. -/
def upserting : Upserting (Row Value) (Row Value) (List Key) (List (Option (Key ⊕ Value))) where
  key := load.key
  update := load.updateRow
  insert := load.insertRow
  view := load.view
  key_update t s := key_congr fun c hc =>
    updateRow_of_not_mem (fun h => (mem_updateColumns.1 h).2 hc) t s
  key_insert d s := key_congr fun c hc => insertRow_of_mem (load.supplied hc) d s
  update_update t a b := by
    funext c
    by_cases h : c ∈ load.updateColumns
    · rw [updateRow_of_mem h, updateRow_of_mem h]
    · rw [updateRow_of_not_mem h, updateRow_of_not_mem h, updateRow_of_not_mem h]
  view_update t s present same := List.map_congr_left fun c hc => by
    by_cases hk : c ∈ load.policy.conflictColumns
    · have kept : c ∉ load.updateColumns := fun h => (mem_updateColumns.1 h).2 hk
      rw [if_pos hk, if_pos hk, updateRow_of_not_mem kept]
      have same := congrArg (Option.map (Sum.inl (β := Value)))
        (map_keyValue_of_key_eq present same hk)
      rwa [Option.map_map, Option.map_map] at same
    · rw [if_neg hk, if_neg hk, updateRow_of_mem (mem_updateColumns.2 ⟨hc, hk⟩)]
  view_insert d s := List.map_congr_left fun c hc => by rw [insertRow_of_mem hc]

/-- Two staged rows conflict when both have a whole key, and the same. -/
theorem conflicts_iff {a b : StagedRow Value} :
    Conflicts (fun r : StagedRow Value => load.key r.cells) a b ↔
      load.nullable a.cells = false ∧ load.nullable b.cells = false ∧
        load.members a.cells = load.members b.cells := by
  unfold Conflicts key
  cases ha : load.nullable a.cells <;> cases hb : load.nullable b.cells <;> simp [ha, hb]

/-- When equal values are identical, the view of a row determines its supplied columns. -/
theorem cells_perm_of_view (injective : Function.Injective load.keyValue)
    {rows rows' : List (Row Value)} (perm : (rows.map load.view).Perm (rows'.map load.view)) :
    (rows.map load.cells).Perm (rows'.map load.cells) := by
  obtain ⟨decode, hd⟩ : ∃ decode : Option (Key ⊕ Value) → Option Value, ∀ row : Row Value,
      (load.view row).map decode = load.cells row := by
    classical
    refine ⟨fun cell => cell.bind (Sum.elim
      (fun k => if h : ∃ v, load.keyValue v = k then some h.choose else none) some), fun row => ?_⟩
    rw [view, List.map_map]
    refine List.map_congr_left fun c _ => ?_
    rw [Function.comp_apply]
    split_ifs
    · cases hc : row c with
      | none => rfl
      | some v =>
        have known : ∃ w, load.keyValue w = load.keyValue v := ⟨v, rfl⟩
        have same : known.choose = v := injective known.choose_spec
        simp [known, same]
    · cases row c <;> rfl
  have decoded (rows : List (Row Value)) :
      (rows.map load.view).map (List.map decode) = rows.map load.cells := by
    rw [List.map_map]
    exact List.map_congr_left fun row _ => hd row
  have mapped := perm.map (List.map decode)
  rwa [decoded, decoded] at mapped

end Rows

/-! ## Statements -/

section Statements

variable {Value Key : Type} [LinearOrder Key] (load : UpsertLoad Value Key)

/-- `ORDER BY {conflict}, {sequence} DESC`. -/
def Precedes (a b : StagedRow Value) : Prop :=
  load.members a.cells ≤ load.members b.cells ∧
    (load.members a.cells = load.members b.cells → b.sequence ≤ a.sequence)

instance : DecidableRel load.Precedes := fun _ _ => inferInstanceAs (Decidable (_ ∧ _))

/-- `SELECT DISTINCT ON ({conflict})`: the first row of each key, after these keys. -/
def distinctOn : List (List Key) → List (StagedRow Value) → List (StagedRow Value)
  | _, [] => []
  | seen, r :: rest =>
    if load.members r.cells ∈ seen then distinctOn seen rest
    else r :: distinctOn (load.members r.cells :: seen) rest

/-- The rows of the staging table whose key has a null member. -/
def nullRows (stage : List (StagedRow Value)) : List (StagedRow Value) :=
  stage.filter fun r => load.nullable r.cells

/-- `dm_non_null`. -/
def lastRows (stage : List (StagedRow Value)) : List (StagedRow Value) :=
  load.distinctOn [] ((stage.filter fun r => !load.nullable r.cells).insertionSort load.Precedes)

/-- The rows that the statement of `finalize` writes. -/
def source (exec : Executor Value) (stage : List (StagedRow Value)) : List (StagedRow Value) :=
  if load.stagingSequence = "" then exec.arrange stage
  else exec.arrange (load.nullRows stage ++ load.lastRows stage)

/-- `_upsert_source_row_count`. -/
def upsertSourceRowCount (stage : List (StagedRow Value)) : Nat :=
  (load.nullRows stage ++ load.lastRows stage).length

/-- `INSERT INTO … ON CONFLICT … DO UPDATE SET …`: the rows and their number; `none` when the statement
would affect a row a second time. -/
def insertOnConflictDoUpdate (defaults : Nat → Row Value) (table proposed : List (Row Value)) :
    Option (List (Row Value) × Nat) :=
  (load.upserting.statement defaults table proposed).map fun marked =>
    (marked.map Prod.snd, marked.countP Prod.fst)

/-- `INSERT INTO … ON CONFLICT … DO NOTHING`. -/
def insertOnConflictDoNothing (defaults : Nat → Row Value) (table proposed : List (Row Value)) :
    List (Row Value) × Nat :=
  proposed.foldl (fun acc s =>
    if acc.1.any (fun t => Conflicts load.key t s) then acc
    else (acc.1 ++ [load.insertRow (defaults acc.1.length) s], acc.2 + 1)) (table, 0)

/-- The upsert of `finalize`, from the rows of the destination and of the staging table; `none` when the
statement fails. -/
def finalize (exec : Executor Value) (table : List (Row Value)) (stage : List (StagedRow Value)) :
    Option (List (Row Value) × DestinationManifest) := do
  let proposed := (load.source exec stage).map StagedRow.cells
  let expectedRows :=
    if load.stagingSequence ≠ "" ∧ load.policy.action = "update" ∧ load.updateColumns ≠ [] then
      some (load.upsertSourceRowCount stage)
    else none
  let (rows, loaded) ←
    if load.policy.action = "ignore" then
      some (load.insertOnConflictDoNothing exec.defaults table proposed)
    else if load.updateColumns ≠ [] then load.insertOnConflictDoUpdate exec.defaults table proposed
    -- there is nothing to update when the key contains every column
    else some (load.insertOnConflictDoNothing exec.defaults table proposed)
  return (rows, {
    rows := loaded
    bytes := 0
    details := match expectedRows with
      | some n => [("expected_rows", toString n)]
      | none => [] })

/-- One statement for each staged row, in the order of arrival. -/
def oneAtATime (exec : Executor Value) (table : List (Row Value)) (arrival : List (StagedRow Value)) :
    Option (List (Row Value)) :=
  arrival.foldlM (fun rows r =>
    (load.insertOnConflictDoUpdate exec.defaults rows [r.cells]).map Prod.fst) table

/-! ## The last row of each key -/

variable {load}

theorem precedes_total (a b : StagedRow Value) : load.Precedes a b ∨ load.Precedes b a := by
  rcases lt_trichotomy (load.members a.cells) (load.members b.cells) with h | h | h
  · exact .inl ⟨h.le, fun e => absurd e h.ne⟩
  · rcases le_total b.sequence a.sequence with hs | hs
    · exact .inl ⟨h.le, fun _ => hs⟩
    · exact .inr ⟨h.ge, fun _ => hs⟩
  · exact .inr ⟨h.le, fun e => absurd e h.ne⟩

theorem Precedes.trans {a b c : StagedRow Value} (h : load.Precedes a b) (h' : load.Precedes b c) :
    load.Precedes a c := by
  refine ⟨h.1.trans h'.1, fun same => ?_⟩
  have middle : load.members a.cells = load.members b.cells := le_antisymm h.1 (same ▸ h'.1)
  exact (h'.2 (middle ▸ same)).trans (h.2 middle)

theorem mem_distinctOn {ordered : List (StagedRow Value)} (sorted : ordered.Pairwise load.Precedes)
    (numbered : ordered.Pairwise fun a b => a.sequence ≠ b.sequence) (seen : List (List Key))
    (r : StagedRow Value) :
    r ∈ load.distinctOn seen ordered ↔ r ∈ ordered ∧ load.members r.cells ∉ seen ∧
      ∀ x ∈ ordered, load.members x.cells = load.members r.cells → x.sequence ≤ r.sequence := by
  induction ordered generalizing seen with
  | nil => simp [distinctOn]
  | cons y rest ih =>
    obtain ⟨first, sorted⟩ := List.pairwise_cons.1 sorted
    obtain ⟨other, numbered⟩ := List.pairwise_cons.1 numbered
    rw [distinctOn]
    split_ifs with known
    · rw [ih sorted numbered]
      constructor
      · rintro ⟨mem, new, last⟩
        refine ⟨List.mem_cons_of_mem _ mem, new, fun x hx same => ?_⟩
        rcases List.mem_cons.1 hx with rfl | hx
        · exact absurd (same ▸ known) new
        · exact last x hx same
      · rintro ⟨mem, new, last⟩
        rcases List.mem_cons.1 mem with rfl | mem
        · exact absurd known new
        · exact ⟨mem, new, fun x hx => last x (List.mem_cons_of_mem _ hx)⟩
    · rw [List.mem_cons, ih sorted numbered, List.mem_cons (a := load.members r.cells)]
      constructor
      · rintro (rfl | ⟨mem, new, last⟩)
        · refine ⟨List.mem_cons_self, known, fun x hx same => ?_⟩
          rcases List.mem_cons.1 hx with rfl | hx
          · exact le_refl _
          · exact (first x hx).2 same.symm
        · obtain ⟨ne, new⟩ := not_or.1 new
          refine ⟨List.mem_cons_of_mem _ mem, new, fun x hx same => ?_⟩
          rcases List.mem_cons.1 hx with rfl | hx
          · exact absurd same.symm ne
          · exact last x hx same
      · rintro ⟨mem, new, last⟩
        rcases List.mem_cons.1 mem with rfl | mem
        · exact .inl rfl
        · refine .inr ⟨mem, not_or.2 ⟨fun same => ?_, new⟩,
            fun x hx => last x (List.mem_cons_of_mem _ hx)⟩
          -- a row of the key of the first row would have a number above and below it
          exact other r mem (le_antisymm (last y List.mem_cons_self same.symm)
            ((first r mem).2 same.symm))

theorem distinctOn_sublist (seen : List (List Key)) (ordered : List (StagedRow Value)) :
    (load.distinctOn seen ordered).Sublist ordered := by
  induction ordered generalizing seen with
  | nil => exact List.Sublist.refl _
  | cons y rest ih =>
    rw [distinctOn]
    split_ifs
    · exact (ih _).cons y
    · exact (ih _).cons_cons y

/-- The rows that are written are the last staged row of each key, and the rows without a key. -/
theorem written_perm {stage arrival : List (StagedRow Value)}
    (numbered : arrival.Pairwise fun a b => a.sequence < b.sequence) (staged : stage.Perm arrival) :
    (load.nullRows stage ++ load.lastRows stage).Perm
      (survivors (fun r => load.key r.cells) arrival) := by
  have ne : stage.Pairwise fun a b => a.sequence ≠ b.sequence :=
    staged.symm.pairwise (numbered.imp fun h => h.ne) fun h => h.symm
  have nodup {rows : List (StagedRow Value)}
      (h : rows.Pairwise fun a b => a.sequence ≠ b.sequence) : rows.Nodup :=
    h.imp fun h e => h (congrArg StagedRow.sequence e)
  have sorting := List.perm_insertionSort load.Precedes
    (stage.filter fun r => !load.nullable r.cells)
  have unequal := sorting.symm.pairwise (ne.filter fun r => !load.nullable r.cells) fun h => h.symm
  have total : Std.Total load.Precedes := ⟨precedes_total⟩
  have trans : IsTrans (StagedRow Value) load.Precedes := ⟨fun _ _ _ => Precedes.trans⟩
  have last (r : StagedRow Value) := mem_distinctOn
    (List.pairwise_insertionSort load.Precedes (stage.filter fun r => !load.nullable r.cells))
    unequal [] r
  have mem_last (r : StagedRow Value) : r ∈ load.lastRows stage ↔
      (r ∈ stage ∧ load.nullable r.cells = false) ∧ ∀ x ∈ stage, load.nullable x.cells = false →
        load.members x.cells = load.members r.cells → x.sequence ≤ r.sequence := by
    rw [lastRows, last]
    simp only [sorting.mem_iff, List.mem_filter, Bool.not_eq_true', List.not_mem_nil,
      not_false_eq_true, true_and, and_imp]
  refine (List.perm_ext_iff_of_nodup ?_ ?_).2 fun r => ?_
  · refine List.Nodup.append (nodup (ne.filter _)) (nodup (unequal.sublist (distinctOn_sublist _ _)))
      fun r hn hl => ?_
    have null := (List.mem_filter.1 hn).2
    rw [((mem_last r).1 hl).1.2] at null
    cases null
  · exact nodup ((numbered.imp fun h => h.ne).sublist (Upserting.survivors_sublist _))
  · rw [List.mem_append, mem_last, nullRows, List.mem_filter,
      Upserting.mem_survivors_iff StagedRow.sequence numbered]
    simp only [staged.mem_iff, conflicts_iff]
    cases null : load.nullable r.cells with
    | true => simp
    | false =>
      simp only [Bool.false_eq_true, and_false, false_or, and_true, true_and]
      exact and_congr_right fun _ => forall₂_congr fun x _ =>
        ⟨fun h ⟨hx, same⟩ => h hx same.symm, fun h hx same => h ⟨hx, same.symm⟩⟩

/-! ## The written rows -/

section Written

variable {stage arrival : List (StagedRow Value)} {table : List (Row Value)}

/-- The statements of single rows are never refused. -/
theorem oneAtATime_eq (exec : Executor Value) (table : List (Row Value))
    (arrival : List (StagedRow Value)) :
    load.oneAtATime exec table arrival =
      some (load.upserting.upsertAll exec.defaults table (arrival.map StagedRow.cells)) := by
  induction arrival generalizing table with
  | nil => rfl
  | cons r rest ih =>
    obtain ⟨marked, result, rows, -⟩ := load.upserting.statement_eq exec.defaults table
      (List.pairwise_singleton _ r.cells)
    have first : (load.insertOnConflictDoUpdate exec.defaults table [r.cells]).map Prod.fst =
        some (load.upserting.upsertAll exec.defaults table [r.cells]) := by
      rw [insertOnConflictDoUpdate, result, Option.map_some, Option.map_some, rows]
    rw [oneAtATime, List.foldlM_cons, first]
    exact ih _

/-- With staging numbers, an update-upsert writes the last rows, and is not refused. -/
theorem finalize_eq (exec : Executor Value) (sequenced : load.stagingSequence ≠ "")
    (update : load.policy.action = "update") (nonKey : load.updateColumns ≠ [])
    (numbered : arrival.Pairwise fun a b => a.sequence < b.sequence) (staged : stage.Perm arrival) :
    load.finalize exec table stage = some
      (load.upserting.upsertAll exec.defaults table ((load.source exec stage).map StagedRow.cells), {
        rows := load.upsertSourceRowCount stage
        bytes := 0
        details := [("expected_rows", toString (load.upsertSourceRowCount stage))] }) := by
  have source : load.source exec stage = exec.arrange (load.nullRows stage ++ load.lastRows stage) :=
    if_neg sequenced
  have perm : (exec.arrange (load.nullRows stage ++ load.lastRows stage)).Perm
      (survivors (fun r => load.key r.cells) arrival) :=
    (exec.arrange_perm _).trans (written_perm numbered staged)
  have distinct : Distinct load.key ((load.source exec stage).map StagedRow.cells) := by
    rw [source]
    exact List.pairwise_map.2 ((Upserting.distinct_survivors arrival).perm perm.symm)
  obtain ⟨marked, result, rows, count⟩ := load.upserting.statement_eq exec.defaults
    table distinct
  have length : ((load.source exec stage).map StagedRow.cells).length =
      load.upsertSourceRowCount stage := by
    rw [List.length_map, source, (exec.arrange_perm _).length_eq, upsertSourceRowCount]
  have notIgnore : load.policy.action ≠ "ignore" := by
    rw [update]
    decide
  rw [finalize, if_neg notIgnore, if_pos nonKey, insertOnConflictDoUpdate, result, Option.map_some,
    rows, count, length, if_pos ⟨sequenced, update, nonKey⟩]
  rfl

/-- The rows that finalize writes are those that survive of the arrived rows. -/
theorem source_perm (exec : Executor Value) (sequenced : load.stagingSequence ≠ "")
    (numbered : arrival.Pairwise fun a b => a.sequence < b.sequence) (staged : stage.Perm arrival) :
    ((load.source exec stage).map StagedRow.cells).Perm
      (survivors load.key (arrival.map StagedRow.cells)) := by
  rw [source, if_neg sequenced, Upserting.survivors_map]
  exact ((exec.arrange_perm _).trans (written_perm numbered staged)).map _

/-- A row of the destination keeps the columns that are not supplied. -/
theorem updated_unsupplied (rows : List (Row Value)) (t : Row Value) {c : String}
    (h : c ∉ load.session.columns) : load.upserting.updated rows t c = t c := by
  rcases found : rows.find? (fun s => Conflicts load.upserting.key t s) with _ | s
  · rw [Upserting.updated, found]
  · rw [Upserting.updated, found]
    exact updateRow_of_not_mem (fun hc => h (mem_updateColumns.1 hc).1) t s

end Written

end Statements

end UpsertLoad

/-! ## The upsert is a fold -/

/-- The reconciliation of an upsert whose manifest has the expected number of rows. -/
theorem reconcileWriteResult_expected {lib : Library} {policy : WritePolicy} {columns : List String}
    {action : String} (mode : policy.mode = .postgresUpsert columns action) {n : Nat}
    (int : lib.int (toString n) = some (n : Int)) {manifest : DestinationManifest}
    (rows : manifest.rows = n) (details : manifest.details = [("expected_rows", toString n)])
    (sourceRows : Nat) (before after : Option Int) (capabilities : ProviderCapabilities) :
    (reconcileWriteResult lib policy sourceRows manifest before after capabilities).1 = "exact" ∧
      (reconcileWriteResult lib policy sourceRows manifest before after capabilities).2.1 = none := by
  have found : manifest.details.lookup "expected_rows" = some (toString n) := by
    rw [details]
    rfl
  have fine : ¬ ((n : Int) < 0 ∨ manifest.rows ≠ n) := by
    rw [rows]
    omega
  rw [reconcileWriteResult, mode]
  simp only [found, int, Option.getD_some, if_neg fine, and_self]

open UpsertLoad in
/-- **The update-upsert is a fold over the staged rows**: whatever order PostgreSQL chooses, finalize
succeeds with the rows that one `INSERT … ON CONFLICT DO UPDATE` for each staged row, in the order of
arrival, makes of the destination; rows of the destination keep the columns that are not supplied; and
the affected rows are as many as were counted, so that the reconciliation is exact. -/
theorem update_upsert_is_a_fold {Value Key : Type} [LinearOrder Key] (load : UpsertLoad Value Key)
    (exec exec' : Executor Value) (table : List (Row Value)) (stage arrival : List (StagedRow Value))
    (lib : Library) (policy : WritePolicy)
    (unique : Distinct load.key table)
    (numbered : arrival.Pairwise fun a b => a.sequence < b.sequence) (staged : stage.Perm arrival)
    (sequenced : load.stagingSequence ≠ "") (update : load.policy.action = "update")
    (nonKey : load.updateColumns ≠ [])
    (int : ∀ n : Nat, lib.int (toString n) = some (n : Int))
    (mode : policy.mode = .postgresUpsert load.policy.conflictColumns load.policy.action) :
    ∃ rows manifest rows', load.finalize exec table stage = some (rows, manifest) ∧
      load.oneAtATime exec' table arrival = some rows' ∧
      (rows.map load.view).Perm (rows'.map load.view) ∧
      (Function.Injective load.keyValue → (rows.map load.cells).Perm (rows'.map load.cells)) ∧
      rows.take table.length = rows'.take table.length ∧
      List.Forall₂ (fun t row => ∀ c ∉ load.session.columns, row c = t c) table
        (rows.take table.length) ∧
      manifest.rows = load.upsertSourceRowCount stage ∧
      ∀ sourceRows before after capabilities,
        (reconcileWriteResult lib policy sourceRows manifest before after capabilities).1 = "exact" ∧
        (reconcileWriteResult lib policy sourceRows manifest before after capabilities).2.1 = none := by
  obtain ⟨head, tags⟩ := Upserting.upsertAll_survivors (U := load.upserting)
    exec.defaults exec'.defaults unique
    (source_perm exec sequenced numbered staged)
  have views := tags.map Prod.snd
  rw [List.map_map, List.map_map] at views
  refine ⟨_, _, _, finalize_eq exec sequenced update nonKey numbered staged,
    oneAtATime_eq exec' table arrival, views, fun injective => cells_perm_of_view load injective views,
    head, ?_, rfl, reconcileWriteResult_expected mode (int _) rfl rfl⟩
  rw [Upserting.take_upsertAll exec.defaults unique]
  exact List.forall₂_map_right_iff.2
    (List.forall₂_same.2 fun t _ c hc => updated_unsupplied _ t hc)

/-! ## Duplicate keys in two batches -/

/-- An upsert into a table of names by number. -/
def UpsertLoad.sample : UpsertLoad String String where
  keyValue := id
  policy := ⟨["id"], "update", by decide, by decide⟩
  session := { columns := ["id", "name"], metadata := [("staging_sequence", "dm_row_number")] }
  supplied := by decide

def Executor.sample : Executor String where
  arrange := List.reverse
  defaults _ _ := none
  arrange_perm := List.reverse_perm

/-- A row with a number and a name. -/
def Row.named (id name : Option String) : Row String
  | "id" => id
  | "name" => name
  | _ => none

/-- Two rows of one key, a row without a key, and a row of a key of the destination. -/
def StagedRow.samples : List (StagedRow String) := [
  ⟨1, .named (some "7") (some "first")⟩, ⟨2, .named none (some "nobody")⟩,
  ⟨3, .named (some "1") (some "new")⟩, ⟨4, .named (some "7") (some "second")⟩]

theorem update_upsert_is_a_fold_duplicates : ∃ rows manifest rows',
    UpsertLoad.sample.finalize .sample [.named (some "1") (some "old")] StagedRow.samples =
      some (rows, manifest) ∧
    UpsertLoad.sample.oneAtATime .sample [.named (some "1") (some "old")] StagedRow.samples =
      some rows' ∧
    (rows.map UpsertLoad.sample.cells).Perm (rows'.map UpsertLoad.sample.cells) ∧
    manifest.rows = 3 := by
  obtain ⟨rows, manifest, rows', written, folded, -, perm, -, -, count, -⟩ :=
    update_upsert_is_a_fold .sample .sample .sample [.named (some "1") (some "old")]
      StagedRow.samples StagedRow.samples { Library.sample with int := String.toInt? }
      ⟨.postgresUpsert ["id"] "update", [], List.nodup_nil⟩ (List.pairwise_singleton _ _)
      (by simp [StagedRow.samples]) (List.Perm.refl _) (by decide) rfl (by decide)
      Nat.toInt?_repr rfl
  exact ⟨rows, manifest, rows', written, folded, perm Function.injective_id, count⟩

end DataMover
