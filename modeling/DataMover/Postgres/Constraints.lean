import DataMover.CheckedUpserts
import DataMover.Paging
import DataMover.Postgres.Upsert

/-!
# The upsert of PostgreSQL under unique constraints

The destination of an upsert may have unique constraints besides the one of the key.  PostgreSQL checks
them after each row that a statement writes, and refuses the statement when two rows share the values of
one.  The values of the source are converted to the types of the columns when they are copied into the
staging table, which refuses nulls where the destination does.
-/

namespace DataMover

open Upserting (Conflicts Distinct survivors)

/-! ## Unique constraints -/

namespace Row

section Constraints

variable {Value : Type}

/-- A row has a value in each of some columns. -/
def Complete (columns : List String) (row : Row Value) : Prop := ∀ c ∈ columns, row c ≠ none

/-- Two rows have the same values in the columns of a unique constraint, without a null. -/
def Shares (constraint : List String) (a b : Row Value) : Prop :=
  Complete constraint a ∧ ∀ c ∈ constraint, a c = b c

/-- Two rows that a table with some unique constraints cannot hold. -/
def Clash (constraints : List (List String)) (a b : Row Value) : Prop :=
  ∃ constraint ∈ constraints, Shares constraint a b

/-- The rows satisfy unique constraints. -/
def Satisfy (constraints : List (List String)) (rows : List (Row Value)) : Prop :=
  rows.Pairwise fun a b => ¬ Clash constraints a b

instance (columns : List String) (row : Row Value) : Decidable (Complete columns row) :=
  decidable_of_iff (∀ c ∈ columns, (row c).isSome = true) (by
    simp only [Complete, Option.isSome_iff_ne_none])

section Equality

variable [DecidableEq Value]

instance (constraint : List String) (a b : Row Value) : Decidable (Shares constraint a b) :=
  inferInstanceAs (Decidable (_ ∧ _))

instance (constraints : List (List String)) :
    DecidableRel fun a b : Row Value => Clash constraints a b := fun a b =>
  inferInstanceAs (Decidable (∃ constraint ∈ constraints, Shares constraint a b))

instance (constraints : List (List String)) :
    DecidablePred fun rows : List (Row Value) => Satisfy constraints rows := fun rows =>
  inferInstanceAs (Decidable (rows.Pairwise fun a b => ¬ Clash constraints a b))

end Equality

variable {constraint : List String} {constraints : List (List String)} {a b : Row Value}

theorem Shares.symm (h : Shares constraint a b) : Shares constraint b a :=
  ⟨fun c hc => h.2 c hc ▸ h.1 c hc, fun c hc => (h.2 c hc).symm⟩

theorem Clash.symm (h : Clash constraints a b) : Clash constraints b a := by
  obtain ⟨constraint, mem, shares⟩ := h
  exact ⟨constraint, mem, shares.symm⟩

theorem shares_iff_map :
    Shares constraint a b ↔ Complete constraint a ∧ constraint.map a = constraint.map b := by
  rw [Shares, List.map_inj_left]

theorem satisfy_append {rows rows' : List (Row Value)} :
    Satisfy constraints (rows ++ rows') ↔ Satisfy constraints rows ∧ Satisfy constraints rows' ∧
      ∀ t ∈ rows, ∀ s ∈ rows', ¬ Clash constraints t s :=
  List.pairwise_append

theorem satisfy_perm {rows rows' : List (Row Value)} (perm : rows.Perm rows') :
    Satisfy constraints rows ↔ Satisfy constraints rows' :=
  perm.pairwise_iff fun apart clash => apart clash.symm

end Constraints

/-! ## Conversion -/

section Conversion

variable {Value : Type} (cast : String → Value → Option Value)

/-- The conversion of the values of some columns to the types of a table; the other columns are null, and
`none` stands for a value that a type does not accept. -/
def castRow (columns : List String) (row : Row Value) : Option (Row Value) :=
  if ∀ c ∈ columns, ((row c).all fun v => (cast c v).isSome) = true then
    some fun c => if c ∈ columns then (row c).bind (cast c) else none
  else none

variable {cast} {columns : List String} {row converted : Row Value}

theorem castRow_null (h : castRow cast columns row = some converted) {c : String}
    (unsupplied : c ∉ columns) : converted c = none := by
  unfold castRow at h
  split_ifs at h
  obtain rfl := Option.some.inj h
  exact if_neg unsupplied

/-- Nulls are kept, and only nulls become nulls. -/
theorem castRow_eq_none_iff (h : castRow cast columns row = some converted)
    (framed : ∀ c ∉ columns, row c = none) (c : String) : converted c = none ↔ row c = none := by
  by_cases hc : c ∈ columns
  · unfold castRow at h
    split_ifs at h with accepted
    obtain rfl := Option.some.inj h
    dsimp only
    rw [if_pos hc]
    have accepted := accepted c hc
    cases value : row c with
    | none => exact iff_of_true rfl rfl
    | some v =>
      rw [value, Option.all_some] at accepted
      exact iff_of_false (Option.ne_none_iff_isSome.2 accepted) (Option.some_ne_none v)
  · exact iff_of_true (castRow_null h hc) (framed c hc)

/-- Columns that are not supplied are nulls for the conversion. -/
theorem castRow_restrict {columns' : List String} (known : columns ⊆ columns') (row : Row Value) :
    castRow cast columns' (fun c => if c ∈ columns then row c else none) = castRow cast columns row := by
  have accepted : (∀ c ∈ columns', ((if c ∈ columns then row c else none).all
      fun v => (cast c v).isSome) = true) ↔
      ∀ c ∈ columns, ((row c).all fun v => (cast c v).isSome) = true := by
    constructor
    · intro h c hc
      have := h c (known hc)
      rwa [if_pos hc] at this
    · intro h c _
      split_ifs with hc
      · exact h c hc
      · rfl
  have converted : (fun c => if c ∈ columns' then
      (if c ∈ columns then row c else none).bind (cast c) else none) =
      fun c => if c ∈ columns then (row c).bind (cast c) else none := by
    funext c
    by_cases hc : c ∈ columns
    · rw [if_pos hc, if_pos hc, if_pos (known hc)]
    · rw [if_neg hc, if_neg hc, Option.bind_none, ite_self]
  rw [castRow, castRow, converted]
  exact if_congr accepted rfl rfl

end Conversion

end Row

/-! ## The staging table -/

/-- The rows of the staging table, numbered in the order of their arrival. -/
def numberRows {Value : Type} (rows : List (Row Value)) : List (StagedRow Value) :=
  rows.zipIdx.map fun e => ⟨e.2 + 1, e.1⟩

/-- `COPY` of the rows of a source into the staging table; `none` when a value is not accepted, or null in
a column that has to be supplied. -/
def stageRows {Value : Type} (cast : String → Value → Option Value) (required columns : List String)
    (rows : List (Row Value)) : Option (List (StagedRow Value)) := do
  let rows ← rows.mapM (Row.castRow cast columns)
  if ∀ row ∈ rows, Row.Complete required row then some (numberRows rows) else none

theorem numbered_numberRows {Value : Type} (rows : List (Row Value)) :
    (numberRows rows).Pairwise fun a b => a.sequence < b.sequence := by
  rw [numberRows, List.pairwise_map]
  have indices : (rows.zipIdx.map Prod.snd).Pairwise (· < ·) := by
    rw [List.zipIdx_map_snd]
    exact List.pairwise_lt_range'
  exact (List.pairwise_map.1 indices).imp fun h => Nat.succ_lt_succ h

theorem cells_numberRows {Value : Type} (rows : List (Row Value)) :
    (numberRows rows).map StagedRow.cells = rows := by
  rw [numberRows, List.map_map]
  exact List.zipIdx_map_fst 0 rows

namespace UpsertLoad

variable {Value Key : Type} [DecidableEq Value] [LinearOrder Key] (load : UpsertLoad Value Key)

/-! ## Statements -/

/-- `INSERT INTO … ON CONFLICT … DO UPDATE SET …` into a table with unique constraints. -/
def insertOnConflictDoUpdateUnder (constraints : List (List String)) (defaults : Nat → Row Value)
    (table proposed : List (Row Value)) : Option (List (Row Value) × Nat) :=
  (load.upserting.checkedStatement (Row.Satisfy constraints) defaults table proposed).map fun marked =>
    (marked.map Prod.snd, marked.countP Prod.fst)

/-- `INSERT INTO … ON CONFLICT … DO NOTHING` into a table with unique constraints. -/
def insertOnConflictDoNothingUnder (constraints : List (List String)) (defaults : Nat → Row Value)
    (table proposed : List (Row Value)) : Option (List (Row Value) × Nat) :=
  load.upserting.checkedInsertions (Row.Satisfy constraints) defaults table proposed

/-- The upsert of `finalize` into a table with unique constraints; `none` when the statement fails. -/
def finalizeUnder (constraints : List (List String)) (exec : Executor Value) (table : List (Row Value))
    (stage : List (StagedRow Value)) : Option (List (Row Value) × DestinationManifest) := do
  let proposed := (load.source exec stage).map StagedRow.cells
  let expectedRows :=
    if load.stagingSequence ≠ "" ∧ load.policy.action = "update" ∧ load.updateColumns ≠ [] then
      some (load.upsertSourceRowCount stage)
    else none
  let (rows, loaded) ←
    if load.policy.action = "ignore" then
      load.insertOnConflictDoNothingUnder constraints exec.defaults table proposed
    else if load.updateColumns ≠ [] then
      load.insertOnConflictDoUpdateUnder constraints exec.defaults table proposed
    else load.insertOnConflictDoNothingUnder constraints exec.defaults table proposed
  return (rows, {
    rows := loaded
    bytes := 0
    details := match expectedRows with
      | some n => [("expected_rows", toString n)]
      | none => [] })

variable {load} {constraints : List (List String)} {exec : Executor Value} {table : List (Row Value)}
  {stage arrival : List (StagedRow Value)}

/-- **The upsert under unique constraints** is refused exactly when, after some first rows of the
statement, a written row clashes with a row that is left or with another written row. -/
theorem finalizeUnder_eq {d : Row Value} (sequenced : load.stagingSequence ≠ "")
    (update : load.policy.action = "update") (plain : ∀ k s, load.insertRow (exec.defaults k) s = load.insertRow d s)
    (distinct : Distinct load.key table) (satisfied : Row.Satisfy constraints table)
    (numbered : arrival.Pairwise fun a b => a.sequence < b.sequence) (staged : stage.Perm arrival) :
    (∃ manifest, load.finalizeUnder constraints exec table stage =
        some (load.upserting.upsertAll exec.defaults table
          ((load.source exec stage).map StagedRow.cells), manifest) ∧
      manifest.rows = (if load.updateColumns ≠ [] then ((load.source exec stage).length : Int)
        else ((load.source exec stage).map StagedRow.cells).countP
          fun s => ∀ t ∈ table, ¬ Conflicts load.key t s) ∧
      ∀ first, first <+: (load.source exec stage).map StagedRow.cells → first ≠ [] →
        load.upserting.Clear d table (Row.Clash constraints) first) ∨
    (load.finalizeUnder constraints exec table stage = none ∧
      ∃ first, first <+: (load.source exec stage).map StagedRow.cells ∧ first ≠ [] ∧
        ¬ load.upserting.Clear d table (Row.Clash constraints) first) := by
  have apart : Distinct load.upserting.key ((load.source exec stage).map StagedRow.cells) :=
    (Upserting.distinct_survivors _).perm (source_perm exec sequenced numbered staged).symm
  have clear {first : List (Row Value)}
      (short : first <+: (load.source exec stage).map StagedRow.cells) :
      Row.Satisfy constraints (load.upserting.upsertAll exec.defaults table first) ↔
        load.upserting.Clear d table (Row.Clash constraints) first :=
    Upserting.pairwise_upsertAll plain (fun _ _ => Row.Clash.symm) distinct
      (apart.sublist short.sublist) satisfied
  have notIgnore : load.policy.action ≠ "ignore" := by
    rw [update]
    decide
  unfold finalizeUnder
  simp only [if_neg notIgnore]
  by_cases nonKey : load.updateColumns ≠ []
  · simp only [if_pos nonKey, insertOnConflictDoUpdateUnder]
    rcases Upserting.checkedStatement_eq (Row.Satisfy constraints) exec.defaults table apart with
      ⟨marked, result, rows, count, valids⟩ | ⟨refused, first, short, ne, invalid⟩
    · rw [result]
      refine .inl ⟨_, by rw [Option.map_some, rows]; rfl, ?_, fun first short ne =>
        (clear short).1 (valids first short ne)⟩
      simp only [count, List.length_map]
    · rw [refused]
      exact .inr ⟨rfl, first, short, ne, fun h => invalid ((clear short).2 h)⟩
  · have idle : ∀ t s, load.upserting.update t s = t := by
      intro t s
      funext c
      refine updateRow_of_not_mem ?_ t s
      rw [not_not.1 nonKey]
      exact List.not_mem_nil
    simp only [if_neg nonKey, insertOnConflictDoNothingUnder]
    rcases Upserting.checkedInsertions_eq (Row.Satisfy constraints) exec.defaults idle distinct
      apart satisfied with ⟨result, valids⟩ | ⟨refused, first, short, ne, invalid⟩
    · rw [result]
      exact .inl ⟨_, rfl, rfl, fun first short ne => (clear short).1 (valids first short ne)⟩
    · rw [refused]
      exact .inr ⟨rfl, first, short, ne, fun h => invalid ((clear short).2 h)⟩

end UpsertLoad

end DataMover
