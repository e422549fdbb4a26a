import Mathlib

/-!
# A database under READ COMMITTED

Tables whose rows are locked by the transaction that writes them, until it commits or rolls back.  A
statement sees what is committed and what its own transaction has written; a statement that needs a
row locked by another transaction waits, and then decides on the row as it is.  A statement over
many rows is a `select` followed by one conditional statement for each row it found.

`exec_cell` says what a statement does to each row, and `Tx` is what a transaction knows of its own
locks and of the tables it has listed.
-/

namespace ReadCommitted

/-! ## Rows and their versions -/

/-- The committed version of a row, and the transaction that has locked it with its version. -/
structure Cell (V : Type) where
  committed : Option V := none
  lock : Option (Nat × V) := none

namespace Cell

variable {V : Type} (i : Nat) (c : Cell V)

/-- The version that the transaction `i` has locked. -/
def held : Option V := c.lock.bind fun l => if l.1 = i then some l.2 else none

/-- The version that the transaction `i` sees. -/
def visible : Option V := (c.held i).or c.committed

/-- No other transaction has locked the row. -/
def Free : Prop := ∀ l ∈ c.lock, l.1 = i

instance : Decidable (c.Free i) := inferInstanceAs (Decidable (∀ l ∈ c.lock, l.1 = i))

def write (v : V) : Cell V := { c with lock := some (i, v) }

def commit : Cell V :=
  match c.held i with
  | some v => ⟨some v, none⟩
  | none => c

def rollback : Cell V :=
  match c.held i with
  | some _ => ⟨c.committed, none⟩
  | none => c

/-- The versions of the row that some transaction sees. -/
def versions : List V := c.committed.toList ++ c.lock.toList.map Prod.snd

variable {i c} {j : Nat} {v : V}

theorem held_eq_some : c.held i = some v ↔ c.lock = some (i, v) := by
  rcases c with ⟨r, _ | ⟨h, w⟩⟩
  · simp [held]
  · by_cases same : h = i <;> simp [held, same]

theorem Free.held_eq_none (free : c.Free i) (other : j ≠ i) : c.held j = none := by
  refine Option.eq_none_iff_forall_ne_some.2 fun v hv => ?_
  exact other (free _ (held_eq_some.1 hv))

theorem Free.of_lock (h : c.lock = none) : c.Free i := by simp [Free, h]

theorem lock_of_free (free : c.Free i) (h : c.held i = none) : c.lock = none := by
  rcases hl : c.lock with _ | ⟨k, v⟩
  · rfl
  · obtain rfl : k = i := free _ hl
    rw [held_eq_some.2 hl] at h
    cases h

@[simp] theorem committed_write : (c.write i v).committed = c.committed := rfl

@[simp] theorem held_write : (c.write i v).held i = some v := by simp [held, write]

theorem held_write_of_ne (free : c.Free i) (other : j ≠ i) : (c.write i v).held j = c.held j := by
  rw [free.held_eq_none other]
  simp [held, write, other.symm]

@[simp] theorem visible_write : (c.write i v).visible i = some v := by simp [visible]

@[simp] theorem committed_commit : (c.commit i).committed = c.visible i := by
  unfold commit visible
  cases h : c.held i <;> rfl

@[simp] theorem held_commit : (c.commit i).held i = none := by
  unfold commit
  split
  · rfl
  · assumption

theorem held_commit_of_ne (other : j ≠ i) : (c.commit i).held j = c.held j := by
  unfold commit
  split
  · rename_i v h
    simp [held, held_eq_some.1 h, other.symm]
  · rfl

@[simp] theorem committed_rollback : (c.rollback i).committed = c.committed := by
  unfold rollback
  split <;> rfl

@[simp] theorem held_rollback : (c.rollback i).held i = none := by
  unfold rollback
  split
  · rfl
  · assumption

theorem held_rollback_of_ne (other : j ≠ i) : (c.rollback i).held j = c.held j := by
  unfold rollback
  split
  · rename_i v h
    simp [held, held_eq_some.1 h, other.symm]
  · rfl

theorem visible_of_held (h : c.held i = some v) : c.visible i = some v := by simp [visible, h]

theorem visible_of_not_held (h : c.held i = none) : c.visible i = c.committed := by
  simp [visible, h]

theorem mem_versions : v ∈ c.versions ↔ c.committed = some v ∨ ∃ h, c.held h = some v := by
  simp only [versions, List.mem_append, Option.mem_toList, List.mem_map, Prod.exists, held_eq_some,
    exists_eq_right]

theorem mem_versions_of_visible (h : c.visible i = some v) : v ∈ c.versions := by
  rw [mem_versions]
  rcases Option.or_eq_some_iff.1 h with held | ⟨-, committed⟩
  · exact .inr ⟨i, held⟩
  · exact .inl committed

end Cell

/-! ## Tables and statements -/

/-- Tables with their rows, where clauses, assignments and unique columns. -/
structure Schema where
  Tab : Type
  decTab : DecidableEq Tab
  Row : Tab → Type
  Query : Tab → Type
  decQuery : ∀ t, DecidableEq (Query t)
  Change : Tab → Type
  /-- The primary key. -/
  key {t : Tab} : Row t → String
  holds {t : Tab} : Query t → Row t → Bool
  apply {t : Tab} : Change t → Row t → Row t
  /-- Two rows agree in a unique column. -/
  clashes {t : Tab} : Row t → Row t → Bool
  key_apply {t : Tab} (change : Change t) (row : Row t) : key (apply change row) = key row

variable {S : Schema}

instance : DecidableEq S.Tab := S.decTab

instance (t : S.Tab) : DecidableEq (S.Query t) := S.decQuery t

/-- The address of a row. -/
abbrev Addr (S : Schema) := (_ : S.Tab) × String

/-- The state of all rows; `keys` are the primary keys ever used. -/
structure Db (S : Schema) where
  cell : (a : Addr S) → Cell (S.Row a.1)
  keys : S.Tab → List String
  total : ∀ t k, k ∉ keys t → cell ⟨t, k⟩ = {}
  keyed : ∀ t k, ∀ r ∈ (cell ⟨t, k⟩).versions, S.key r = k

/-- A statement; `lock` is `SELECT … FOR UPDATE` by primary key. -/
inductive Stmt (S : Schema) where
  | select (t : S.Tab) (q : S.Query t)
  | lock (t : S.Tab) (k : String) (q : S.Query t)
  | update (t : S.Tab) (k : String) (q : S.Query t) (change : S.Change t)
  | insert (t : S.Tab) (row : S.Row t)
  | commit
  | rollback

/-- The rows found, the row that was locked or updated, or whether a row was inserted. -/
def Stmt.Answer : Stmt S → Type
  | .select t _ => List (S.Row t)
  | .lock t _ _ => Option (S.Row t)
  | .update t _ _ _ => Option (S.Row t)
  | .insert _ _ => Bool
  | .commit => Unit
  | .rollback => Unit

namespace Db

variable (i : Nat) (db : Db S)

/-- The rows that the transaction `i` sees and the where clause selects. -/
def rows (t : S.Tab) (q : S.Query t) : List (S.Row t) :=
  (db.keys t).filterMap fun k => ((db.cell ⟨t, k⟩).visible i).filter (S.holds q)

/-- The transaction `i` writes a row that it may lock. -/
def write (t : S.Tab) (r : S.Row t) : Db S where
  cell := Function.update db.cell ⟨t, S.key r⟩ ((db.cell ⟨t, S.key r⟩).write i r)
  keys := Function.update db.keys t ((db.keys t).insert (S.key r))
  total t' k hk := by
    rw [Function.update_of_ne, db.total t' k]
    · intro old
      by_cases same : t' = t
      · subst same
        simp [old] at hk
      · rw [Function.update_of_ne same] at hk
        exact hk old
    · rintro ⟨⟩
      simp at hk
  keyed t' k r' hr' := by
    by_cases same : (⟨t', k⟩ : Addr S) = ⟨t, S.key r⟩
    · cases same
      rw [Function.update_self, Cell.mem_versions] at hr'
      rcases hr' with hr' | ⟨h, hr'⟩
      · exact db.keyed t _ r' (Cell.mem_versions.2 (.inl hr'))
      · rw [Cell.held_eq_some] at hr'
        cases hr'
        rfl
    · rw [Function.update_of_ne same] at hr'
      exact db.keyed t' k r' hr'

/-- Write `f` of a row when it satisfies the where clause. -/
def writeWhen (t : S.Tab) (k : String) (q : S.Query t) (f : S.Row t → S.Row t) :
    Option (Option (S.Row t) × Db S) :=
  match ((db.cell ⟨t, k⟩).visible i).filter (S.holds q) with
  | none => some (none, db)
  | some r =>
    if (db.cell ⟨t, k⟩).Free i then some (some (f r), db.write i t (f r)) else none

/-- A version of the row with the key `k` stands in the way of a new row. -/
def opposes (t : S.Tab) (row : S.Row t) (k : String) (v : S.Row t) : Bool :=
  decide (k = S.key row) || S.clashes row v

/-- A row of the table stands in the way, whatever the other transactions do. -/
def taken (t : S.Tab) (row : S.Row t) : Bool :=
  (db.keys t).any fun k =>
    let c := db.cell ⟨t, k⟩
    if c.Free i then c.versions.any (opposes t row k)
    else c.committed.any (opposes t row k) && c.lock.any fun l => opposes t row k l.2

/-- A row stands in the way that another transaction has locked. -/
def contended (t : S.Tab) (row : S.Row t) : Bool :=
  (db.keys t).any fun k => (db.cell ⟨t, k⟩).versions.any (opposes t row k)

def commit : Db S where
  cell a := (db.cell a).commit i
  keys := db.keys
  total t k hk := by rw [db.total t k hk]; rfl
  keyed t k r hr := by
    refine db.keyed t k r ?_
    rw [Cell.mem_versions] at hr
    rcases hr with hr | ⟨h, hr⟩
    · exact Cell.mem_versions_of_visible (Cell.committed_commit.symm.trans hr)
    · by_cases own : h = i
      · rw [own, Cell.held_commit] at hr
        cases hr
      · rw [Cell.held_commit_of_ne own] at hr
        exact Cell.mem_versions.2 (.inr ⟨h, hr⟩)

def rollback : Db S where
  cell a := (db.cell a).rollback i
  keys := db.keys
  total t k hk := by rw [db.total t k hk]; rfl
  keyed t k r hr := by
    refine db.keyed t k r ?_
    rw [Cell.mem_versions] at hr ⊢
    rcases hr with hr | ⟨h, hr⟩
    · exact .inl (Cell.committed_rollback.symm.trans hr)
    · by_cases own : h = i
      · rw [own, Cell.held_rollback] at hr
        cases hr
      · rw [Cell.held_rollback_of_ne own] at hr
        exact .inr ⟨h, hr⟩

/-- Tables without rows. -/
def empty : Db S where
  cell _ := {}
  keys _ := []
  total _ _ _ := rfl
  keyed _ _ _ hr := nomatch hr

/-- Tables with these committed rows. -/
def load (rows : List ((t : S.Tab) × S.Row t)) : Db S :=
  (rows.foldl (fun db r => db.write 0 r.1 r.2) empty).commit 0

/-- The answer to a statement of the transaction `i`; `none` while it has to wait. -/
def exec : (s : Stmt S) → Option (s.Answer × Db S)
  | .select t q => some (db.rows i t q, db)
  | .lock t k q => db.writeWhen i t k q id
  | .update t k q change => db.writeWhen i t k q (S.apply change)
  | .insert t row =>
    if db.taken i t row then some (false, db)
    else if db.contended t row then none
    else some (true, db.write i t row)
  | .commit => some ((), db.commit i)
  | .rollback => some ((), db.rollback i)

end Db

/-! ## What a statement does -/

namespace Db

variable {i j : Nat} {db db' : Db S} {t : S.Tab} {k : String} {q : S.Query t} {r : S.Row t}

theorem cell_write (db : Db S) (i : Nat) (t : S.Tab) (r : S.Row t) :
    (db.write i t r).cell ⟨t, S.key r⟩ = (db.cell ⟨t, S.key r⟩).write i r :=
  Function.update_self ..

theorem cell_write_of_ne {a : Addr S} (other : a ≠ ⟨t, S.key r⟩) :
    (db.write i t r).cell a = db.cell a :=
  Function.update_of_ne other ..

@[simp] theorem cell_commit (db : Db S) (i : Nat) (a : Addr S) :
    (db.commit i).cell a = (db.cell a).commit i := rfl

@[simp] theorem cell_rollback (db : Db S) (i : Nat) (a : Addr S) :
    (db.rollback i).cell a = (db.cell a).rollback i := rfl

theorem held_write (db : Db S) (i : Nat) (t : S.Tab) (r : S.Row t) :
    ((db.write i t r).cell ⟨t, S.key r⟩).held i = some r := by
  rw [cell_write, Cell.held_write]

theorem committed_write (a : Addr S) : ((db.write i t r).cell a).committed =
    (db.cell a).committed := by
  by_cases same : a = ⟨t, S.key r⟩
  · subst same
    rw [cell_write, Cell.committed_write]
  · rw [cell_write_of_ne same]

theorem free_write {a : Addr S} (free : (db.cell a).Free i) : ((db.write i t r).cell a).Free i := by
  by_cases same : a = ⟨t, S.key r⟩
  · subst same
    rw [cell_write]
    rintro l ⟨⟩
    rfl
  · rwa [cell_write_of_ne same]

/-- Loaded rows are not locked. -/
theorem lock_load (rows : List ((t : S.Tab) × S.Row t)) (a : Addr S) :
    ((load rows).cell a).lock = none := by
  have free : ∀ db : Db S, (db.cell a).Free 0 →
      ((rows.foldl (fun db r => db.write 0 r.1 r.2) db).cell a).Free 0 := by
    induction rows with
    | nil => exact fun db free => free
    | cons r rows ih => exact fun db free => ih _ (free_write free)
  have all := free empty (Cell.Free.of_lock rfl)
  rw [load, cell_commit]
  refine Cell.lock_of_free (i := 0) (fun l hl => ?_) Cell.held_commit
  unfold Cell.commit at hl
  split at hl
  · cases hl
  · exact all l hl

theorem mem_keys_of_visible (h : (db.cell ⟨t, k⟩).visible i = some r) : k ∈ db.keys t := by
  by_contra absent
  rw [db.total t k absent] at h
  cases h

theorem key_of_visible (h : (db.cell ⟨t, k⟩).visible i = some r) : S.key r = k :=
  db.keyed t k r (Cell.mem_versions_of_visible h)

theorem key_of_committed (h : (db.cell ⟨t, k⟩).committed = some r) : S.key r = k :=
  db.keyed t k r (Cell.mem_versions.2 (.inl h))

theorem mem_rows : r ∈ db.rows i t q ↔
    (db.cell ⟨t, S.key r⟩).visible i = some r ∧ S.holds q r = true := by
  simp only [rows, List.mem_filterMap, Option.filter_eq_some_iff]
  constructor
  · rintro ⟨k, -, seen, holds⟩
    rw [key_of_visible seen]
    exact ⟨seen, holds⟩
  · rintro ⟨seen, holds⟩
    exact ⟨S.key r, mem_keys_of_visible seen, seen, holds⟩

/-- No key is listed twice, so no row is found twice. -/
theorem nodup_rows (nodup : (db.keys t).Nodup) : (db.rows i t q).Nodup := by
  refine nodup.filterMap fun k k' r found found' => ?_
  rw [← key_of_visible (Option.filter_eq_some_iff.1 found).1]
  exact key_of_visible (Option.filter_eq_some_iff.1 found').1

theorem nodup_keys_write (nodup : (db.keys t).Nodup) (t' : S.Tab) (r : S.Row t') :
    ((db.write i t' r).keys t).Nodup := by
  change (Function.update db.keys t' ((db.keys t').insert (S.key r)) t).Nodup
  by_cases same : t = t'
  · subst same
    rw [Function.update_self]
    exact nodup.insert
  · rw [Function.update_of_ne same]
    exact nodup

/-- A conditional write changes nothing, or it writes a row that satisfies the where clause. -/
theorem writeWhen_cases {f : S.Row t → S.Row t} {a : Option (S.Row t)}
    (h : db.writeWhen i t k q f = some (a, db')) :
    (a = none ∧ db' = db ∧ ∀ r, (db.cell ⟨t, k⟩).visible i = some r → S.holds q r = false) ∨
    ∃ r, (db.cell ⟨t, k⟩).visible i = some r ∧ S.holds q r = true ∧ (db.cell ⟨t, k⟩).Free i ∧
      a = some (f r) ∧ db' = db.write i t (f r) := by
  unfold writeWhen at h
  split at h
  · rename_i missed
    cases h
    refine .inl ⟨rfl, rfl, fun r seen => ?_⟩
    rw [seen] at missed
    simpa [Option.filter] using missed
  · rename_i r found
    obtain ⟨seen, holds⟩ := Option.filter_eq_some_iff.1 found
    split_ifs at h with free
    cases h
    exact .inr ⟨r, seen, holds, free, rfl, rfl⟩

/-- A row is inserted where no version of a row stands in its way. -/
theorem insert_cases {a : Bool} (h : db.exec i (.insert t r) = some (a, db')) :
    a = false ∧ db' = db ∨
    a = true ∧ db' = db.write i t r ∧ db.cell ⟨t, S.key r⟩ = {} ∧
      ∀ k, ∀ v ∈ (db.cell ⟨t, k⟩).versions, S.clashes r v = false := by
  simp only [exec] at h
  split_ifs at h with taken contended
  · cases h
    exact .inl ⟨rfl, rfl⟩
  · cases h
    have clear : ∀ k, ∀ v ∈ (db.cell ⟨t, k⟩).versions, opposes t r k v = false := by
      intro k v hv
      by_contra opposed
      refine contended (List.any_eq_true.2 ⟨k, ?_, List.any_eq_true.2 ⟨v, hv, ?_⟩⟩)
      · by_contra absent
        rw [db.total t k absent] at hv
        cases hv
      · simpa using opposed
    refine .inr ⟨rfl, rfl, ?_, fun k v hv => ?_⟩
    · rcases hc : db.cell ⟨t, S.key r⟩ with ⟨_ | v, _ | ⟨h, w⟩⟩
      · rfl
      · have opposed := clear (S.key r) w (by simp [hc, Cell.versions])
        simp [opposes] at opposed
      · have opposed := clear (S.key r) v (by simp [hc, Cell.versions])
        simp [opposes] at opposed
      · have opposed := clear (S.key r) v (by simp [hc, Cell.versions])
        simp [opposes] at opposed
    · have free := clear k v hv
      rw [opposes, Bool.or_eq_false_iff] at free
      exact free.2

end Db

/-- What a statement of the transaction `i` does to a row. -/
inductive CellStep (i : Nat) {t : S.Tab} (c : Cell (S.Row t)) : Cell (S.Row t) → Prop
  | same : CellStep i c c
  | lock {r : S.Row t} (seen : c.visible i = some r) (free : c.Free i) : CellStep i c (c.write i r)
  | update {r : S.Row t} (seen : c.visible i = some r) (free : c.Free i) (change : S.Change t) :
      CellStep i c (c.write i (S.apply change r))
  | insert {r : S.Row t} (empty : c = {}) : CellStep i c (c.write i r)
  | commit : CellStep i c (c.commit i)
  | rollback : CellStep i c (c.rollback i)

section CellStep

variable {i j : Nat} {db db' : Db S} {t : S.Tab} {k : String} {q : S.Query t} {r : S.Row t}

theorem cellStep_write (hk : S.key r = k)
    (h : CellStep i (db.cell ⟨t, k⟩) ((db.cell ⟨t, k⟩).write i r)) (a : Addr S) :
    CellStep i (db.cell a) ((db.write i t r).cell a) := by
  subst hk
  by_cases same : a = ⟨t, S.key r⟩
  · subst same
    rwa [Db.cell_write]
  · rw [Db.cell_write_of_ne same]
    exact .same

theorem exec_cell {s : Stmt S} {answer : s.Answer} (h : db.exec i s = some (answer, db'))
    (a : Addr S) : CellStep i (db.cell a) (db'.cell a) := by
  cases s with
  | select t q =>
    cases h
    exact .same
  | lock t k q =>
    rcases Db.writeWhen_cases h with ⟨-, rfl, -⟩ | ⟨r, seen, -, free, -, rfl⟩
    · exact .same
    · exact cellStep_write (Db.key_of_visible seen) (.lock seen free) a
  | update t k q change =>
    rcases Db.writeWhen_cases h with ⟨-, rfl, -⟩ | ⟨r, seen, -, free, -, rfl⟩
    · exact .same
    · refine cellStep_write ?_ (.update seen free change) a
      rw [S.key_apply, Db.key_of_visible seen]
  | insert t r =>
    rcases Db.insert_cases h with ⟨-, rfl⟩ | ⟨-, rfl, empty, -⟩
    · exact .same
    · exact cellStep_write rfl (.insert empty) a
  | commit =>
    cases h
    exact .commit
  | rollback =>
    cases h
    exact .rollback

/-- Only a commit changes what is committed. -/
theorem exec_committed {s : Stmt S} {answer : s.Answer} (h : db.exec i s = some (answer, db'))
    (other : s ≠ .commit) (a : Addr S) : (db'.cell a).committed = (db.cell a).committed := by
  cases s with
  | select t q =>
    cases h
    rfl
  | lock t k q =>
    rcases Db.writeWhen_cases h with ⟨-, rfl, -⟩ | ⟨r, -, -, -, -, rfl⟩
    · rfl
    · exact Db.committed_write a
  | update t k q change =>
    rcases Db.writeWhen_cases h with ⟨-, rfl, -⟩ | ⟨r, -, -, -, -, rfl⟩
    · rfl
    · exact Db.committed_write a
  | insert t r =>
    rcases Db.insert_cases h with ⟨-, rfl⟩ | ⟨-, rfl, -, -⟩
    · rfl
    · exact Db.committed_write a
  | commit => exact absurd rfl other
  | rollback =>
    cases h
    exact Cell.committed_rollback

theorem exec_nodup_keys {s : Stmt S} {answer : s.Answer} (h : db.exec i s = some (answer, db'))
    (nodup : (db.keys t).Nodup) : (db'.keys t).Nodup := by
  cases s with
  | select t' q =>
    cases h
    exact nodup
  | lock t' k q =>
    rcases Db.writeWhen_cases h with ⟨-, rfl, -⟩ | ⟨r, -, -, -, -, rfl⟩
    · exact nodup
    · exact Db.nodup_keys_write nodup t' _
  | update t' k q change =>
    rcases Db.writeWhen_cases h with ⟨-, rfl, -⟩ | ⟨r, -, -, -, -, rfl⟩
    · exact nodup
    · exact Db.nodup_keys_write nodup t' _
  | insert t' r =>
    rcases Db.insert_cases h with ⟨-, rfl⟩ | ⟨-, rfl, -, -⟩
    · exact nodup
    · exact Db.nodup_keys_write nodup t' r
  | commit =>
    cases h
    exact nodup
  | rollback =>
    cases h
    exact nodup

/-- What a transaction has locked stays locked until it ends. -/
theorem exec_keeps_held {s : Stmt S} {answer : s.Answer} (h : db.exec i s = some (answer, db'))
    (commit : s ≠ .commit) (rollback : s ≠ .rollback) {a : Addr S}
    (held : (db.cell a).held i ≠ none) : (db'.cell a).held i ≠ none := by
  have write : ∀ (t : S.Tab) (r : S.Row t), ((db.write i t r).cell a).held i ≠ none := by
    intro t r
    by_cases same : a = ⟨t, S.key r⟩
    · subst same
      rw [Db.cell_write, Cell.held_write]
      exact Option.some_ne_none _
    · rw [Db.cell_write_of_ne same]
      exact held
  cases s with
  | select t q =>
    cases h
    exact held
  | lock t k q =>
    rcases Db.writeWhen_cases h with ⟨-, rfl, -⟩ | ⟨r, -, -, -, -, rfl⟩
    · exact held
    · exact write t _
  | update t k q change =>
    rcases Db.writeWhen_cases h with ⟨-, rfl, -⟩ | ⟨r, -, -, -, -, rfl⟩
    · exact held
    · exact write t _
  | insert t r =>
    rcases Db.insert_cases h with ⟨-, rfl⟩ | ⟨-, rfl, -, -⟩
    · exact held
    · exact write t r
  | commit => exact absurd rfl commit
  | rollback => exact absurd rfl rollback

/-- A row that a transaction was given by a `lock` is locked. -/
theorem exec_lock_held {answer : Option (S.Row t)}
    (h : db.exec i (.lock t k q) = some (answer, db')) (found : answer.isSome = true) :
    (db'.cell ⟨t, k⟩).held i ≠ none := by
  rcases Db.writeWhen_cases h with ⟨rfl, -, -⟩ | ⟨r, seen, -, -, rfl, rfl⟩
  · cases found
  · rw [id, ← Db.key_of_visible seen, Db.cell_write, Cell.held_write]
    exact Option.some_ne_none _

/-- A transaction locks no row but the one that its statement names. -/
theorem exec_held_of_ne {s : Stmt S} {answer : s.Answer} (h : db.exec i s = some (answer, db'))
    {a : Addr S} (lock : ∀ q, s ≠ .lock a.1 a.2 q) (update : ∀ q change, s ≠ .update a.1 a.2 q change)
    (insert : ∀ r, S.key r = a.2 → s ≠ .insert a.1 r) :
    (db'.cell a).held i = none ∨ (db'.cell a).held i = (db.cell a).held i := by
  have write : ∀ (t : S.Tab) (r : S.Row t), a ≠ ⟨t, S.key r⟩ →
      ((db.write i t r).cell a).held i = none ∨
        ((db.write i t r).cell a).held i = (db.cell a).held i := by
    intro t r elsewhere
    rw [Db.cell_write_of_ne elsewhere]
    exact .inr rfl
  cases s with
  | select t q =>
    cases h
    exact .inr rfl
  | lock t k q =>
    rcases Db.writeWhen_cases h with ⟨-, rfl, -⟩ | ⟨r, seen, -, -, -, rfl⟩
    · exact .inr rfl
    · refine write t _ ?_
      rintro rfl
      exact lock q (by rw [id, Db.key_of_visible seen])
  | update t k q change =>
    rcases Db.writeWhen_cases h with ⟨-, rfl, -⟩ | ⟨r, seen, -, -, -, rfl⟩
    · exact .inr rfl
    · refine write t _ ?_
      rintro rfl
      exact update q change (by rw [S.key_apply, Db.key_of_visible seen])
  | insert t r =>
    rcases Db.insert_cases h with ⟨-, rfl⟩ | ⟨-, rfl, -, -⟩
    · exact .inr rfl
    · refine write t r ?_
      rintro rfl
      exact insert r rfl rfl
  | commit =>
    cases h
    exact .inl Cell.held_commit
  | rollback =>
    cases h
    exact .inl Cell.held_rollback

/-- Within a transaction a row is left alone, locked as it is seen, updated or inserted. -/
theorem exec_within {s : Stmt S} {answer : s.Answer} (h : db.exec i s = some (answer, db'))
    (commit : s ≠ .commit) (rollback : s ≠ .rollback) (a : Addr S) :
    db'.cell a = db.cell a ∨
    (∃ r, (db.cell a).visible i = some r ∧ (db.cell a).Free i ∧
      db'.cell a = (db.cell a).write i r) ∨
    (∃ q change r, s = .update a.1 a.2 q change ∧ (db.cell a).visible i = some r ∧
      S.holds q r = true ∧ (db.cell a).Free i ∧
      db'.cell a = (db.cell a).write i (S.apply change r)) ∨
    ∃ r, s = .insert a.1 r ∧ S.key r = a.2 ∧ db.cell a = {} ∧
      db'.cell a = (db.cell a).write i r := by
  cases s with
  | select t q =>
    cases h
    exact .inl rfl
  | lock t k q =>
    rcases Db.writeWhen_cases h with ⟨-, rfl, -⟩ | ⟨r, seen, -, free, rfl, rfl⟩
    · exact .inl rfl
    · have key : S.key (id r) = k := Db.key_of_visible seen
      by_cases same : a = ⟨t, k⟩
      · subst same
        exact .inr (.inl ⟨r, seen, free, by rw [← key]; exact Db.cell_write ..⟩)
      · exact .inl (Db.cell_write_of_ne (by rwa [key]))
  | update t k q change =>
    rcases Db.writeWhen_cases h with ⟨-, rfl, -⟩ | ⟨r, seen, holds, free, rfl, rfl⟩
    · exact .inl rfl
    · have key : S.key (S.apply change r) = k := (S.key_apply change r).trans (Db.key_of_visible seen)
      by_cases same : a = ⟨t, k⟩
      · subst same
        refine .inr (.inr (.inl ⟨q, change, r, rfl, seen, holds, free, ?_⟩))
        rw [← key]
        exact Db.cell_write ..
      · exact .inl (Db.cell_write_of_ne (by rwa [key]))
  | insert t r =>
    rcases Db.insert_cases h with ⟨-, rfl⟩ | ⟨-, rfl, empty, -⟩
    · exact .inl rfl
    · by_cases same : a = ⟨t, S.key r⟩
      · subst same
        exact .inr (.inr (.inr ⟨r, rfl, rfl, empty, Db.cell_write ..⟩))
      · exact .inl (Db.cell_write_of_ne same)
  | commit => exact absurd rfl commit
  | rollback => exact absurd rfl rollback

namespace CellStep

variable {c c' : Cell (S.Row t)}

/-- What another transaction has locked stays locked. -/
theorem held_of_ne (h : CellStep i c c') (other : j ≠ i) : c'.held j = c.held j := by
  cases h with
  | same => rfl
  | lock seen free => exact Cell.held_write_of_ne free other
  | update seen free => exact Cell.held_write_of_ne free other
  | insert empty =>
    subst empty
    exact Cell.held_write_of_ne (.of_lock rfl) other
  | commit => exact Cell.held_commit_of_ne other
  | rollback => exact Cell.held_rollback_of_ne other

/-- A row that another transaction has locked is left alone. -/
theorem committed_of_held (h : CellStep i c c') (other : j ≠ i) {v : S.Row t}
    (held : c.held j = some v) : c'.committed = c.committed := by
  have notOwn : c.held i = none := by
    rw [Cell.held_eq_some] at held
    simp [Cell.held, held, other]
  cases h with
  | same => rfl
  | lock seen free => rfl
  | update seen free => rfl
  | insert empty => rfl
  | commit => rw [Cell.committed_commit, Cell.visible_of_not_held notOwn]
  | rollback => exact Cell.committed_rollback

end CellStep

/-! ## Evolution of a row -/

/-- A preorder of the versions of a row that all assignments follow. -/
structure Evolution (S : Schema) where
  Rel {t : S.Tab} : S.Row t → S.Row t → Prop
  refl {t : S.Tab} (r : S.Row t) : Rel r r
  trans {t : S.Tab} {r r' r'' : S.Row t} : Rel r r' → Rel r' r'' → Rel r r''
  apply {t : S.Tab} (change : S.Change t) (r : S.Row t) : Rel r (S.apply change r)

variable {E : Evolution S} {c c' : Cell (S.Row t)}

/-- The locked version of a row has evolved from the committed one. -/
def Cell.Derived (E : Evolution S) (c : Cell (S.Row t)) : Prop :=
  ∀ i r r', c.committed = some r → c.held i = some r' → E.Rel r r'

theorem Cell.Derived.visible (d : c.Derived E) {r' : S.Row t} (hr : c.committed = some r)
    (hv : c.visible i = some r') : E.Rel r r' := by
  rcases Option.or_eq_some_iff.1 hv with held | ⟨-, committed⟩
  · exact d i r r' hr held
  · rw [hr] at committed
    cases committed
    exact E.refl r

namespace CellStep

theorem derived_write (d : c.Derived E) (free : c.Free i) {r' : S.Row t}
    (hr : ∀ r, c.committed = some r → E.Rel r r') : (c.write i r').Derived E := by
  intro j r w committed held
  by_cases own : j = i
  · subst own
    rw [Cell.held_write] at held
    cases held
    exact hr r committed
  · rw [Cell.held_write_of_ne free own] at held
    exact d j r w committed held

theorem derived (h : CellStep i c c') (d : c.Derived E) : c'.Derived E := by
  cases h with
  | same => exact d
  | lock seen free => exact derived_write d free fun r hr => d.visible hr seen
  | update seen free change =>
    exact derived_write d free fun r hr => E.trans (d.visible hr seen) (E.apply change _)
  | insert empty =>
    subst empty
    exact derived_write d (.of_lock rfl) nofun
  | commit =>
    intro j r w committed held
    by_cases own : j = i
    · rw [own, Cell.held_commit] at held
      cases held
    · rw [Cell.held_commit_of_ne own] at held
      have notOwn : c.held i = none := by
        rw [Cell.held_eq_some] at held
        simp [Cell.held, held, own]
      rw [Cell.committed_commit, Cell.visible_of_not_held notOwn] at committed
      exact d j r w committed held
  | rollback =>
    intro j r w committed held
    by_cases own : j = i
    · rw [own, Cell.held_rollback] at held
      cases held
    · rw [Cell.held_rollback_of_ne own] at held
      exact d j r w (Cell.committed_rollback.symm.trans committed) held

/-- A committed row evolves. -/
theorem evolves (h : CellStep i c c') (d : c.Derived E) (hr : c.committed = some r) :
    ∃ r', c'.committed = some r' ∧ E.Rel r r' := by
  cases h with
  | same => exact ⟨r, hr, E.refl r⟩
  | lock => exact ⟨r, hr, E.refl r⟩
  | update => exact ⟨r, hr, E.refl r⟩
  | insert => exact ⟨r, hr, E.refl r⟩
  | commit =>
    obtain ⟨r', seen⟩ : ∃ r', c.visible i = some r' := by
      cases held : c.held i with
      | none => exact ⟨r, (Cell.visible_of_not_held held).trans hr⟩
      | some w => exact ⟨w, Cell.visible_of_held held⟩
    exact ⟨r', Cell.committed_commit.trans seen, d.visible hr seen⟩
  | rollback => exact ⟨r, Cell.committed_rollback.trans hr, E.refl r⟩

/-- What another transaction sees after a step, it saw before in an earlier version, or it is a row
that has just been committed. -/
theorem visible_of_ne (h : CellStep i c c') (d : c.Derived E) (other : j ≠ i) {r' : S.Row t}
    (hv : c'.visible j = some r') :
    (∃ r, c.visible j = some r ∧ E.Rel r r') ∨ c.committed = none ∧ c.held i = some r' := by
  rcases Option.or_eq_some_iff.1 hv with held | ⟨notHeld, committed⟩
  · rw [h.held_of_ne other] at held
    exact .inl ⟨r', Cell.visible_of_held held, E.refl r'⟩
  · rw [h.held_of_ne other] at notHeld
    rw [Cell.visible_of_not_held notHeld]
    cases h with
    | same => exact .inl ⟨r', committed, E.refl r'⟩
    | lock => exact .inl ⟨r', committed, E.refl r'⟩
    | update => exact .inl ⟨r', committed, E.refl r'⟩
    | insert => exact .inl ⟨r', committed, E.refl r'⟩
    | commit =>
      rw [Cell.committed_commit] at committed
      cases hc : c.committed with
      | none =>
        rw [Cell.visible, hc, Option.or_none] at committed
        exact .inr ⟨rfl, committed⟩
      | some r => exact .inl ⟨r, rfl, d.visible hc committed⟩
    | rollback => exact .inl ⟨r', Cell.committed_rollback.symm.trans committed, E.refl r'⟩

end CellStep

/-- The row was inserted by a transaction that has not committed. -/
def Cell.New (i : Nat) (c : Cell (S.Row t)) (r : S.Row t) : Prop :=
  c.committed = none ∧ c.held i = some r

theorem Cell.New.visible (h : c.New i r) : c.visible i = some r := visible_of_held h.2

variable {s : Stmt S} {answer : s.Answer}

/-- What a transaction sees after a statement, it saw before in an earlier version, or it has just
inserted it. -/
theorem exec_visible (E : Evolution S) (h : db.exec i s = some (answer, db')) (commit : s ≠ .commit)
    (rollback : s ≠ .rollback) {a : Addr S} {r' : S.Row a.1}
    (seen' : (db'.cell a).visible i = some r') :
    (∃ r, (db.cell a).visible i = some r ∧ E.Rel r r') ∨ s = .insert a.1 r' ∧ S.key r' = a.2 := by
  rcases exec_within h commit rollback a with same | ⟨r, seen, -, same⟩ |
    ⟨q, change, r, -, seen, -, -, same⟩ | ⟨r, rfl, key, -, same⟩
  · exact .inl ⟨r', same ▸ seen', E.refl r'⟩
  · rw [same, Cell.visible_write] at seen'
    cases seen'
    exact .inl ⟨r', seen, E.refl r'⟩
  · rw [same, Cell.visible_write] at seen'
    cases seen'
    exact .inl ⟨r, seen, E.apply change r⟩
  · rw [same, Cell.visible_write] at seen'
    cases seen'
    exact .inr ⟨rfl, key⟩

/-- A new row was new before in an earlier version, or it has just been inserted. -/
theorem exec_new (E : Evolution S) (h : db.exec i s = some (answer, db')) (commit : s ≠ .commit)
    (rollback : s ≠ .rollback) {a : Addr S} {r' : S.Row a.1} (new : (db'.cell a).New i r') :
    (∃ r, (db.cell a).New i r ∧ E.Rel r r') ∨ s = .insert a.1 r' ∧ S.key r' = a.2 := by
  have uncommitted : (db.cell a).committed = none := (exec_committed h commit a).symm.trans new.1
  refine (exec_visible E h commit rollback new.visible).imp_left fun ⟨r, seen, rel⟩ => ?_
  refine ⟨r, ⟨uncommitted, ?_⟩, rel⟩
  rwa [Cell.visible, uncommitted, Option.or_none] at seen

/-- A row that a transaction has locked stays locked in a later version. -/
theorem exec_held (E : Evolution S) (h : db.exec i s = some (answer, db')) (commit : s ≠ .commit)
    (rollback : s ≠ .rollback) {a : Addr S} {r : S.Row a.1} (held : (db.cell a).held i = some r) :
    ∃ r', (db'.cell a).held i = some r' ∧ E.Rel r r' := by
  have seen := Cell.visible_of_held held
  rcases exec_within h commit rollback a with same | ⟨r', seen', -, same⟩ |
    ⟨q, change, r', -, seen', -, -, same⟩ | ⟨r', -, -, empty, -⟩
  · exact ⟨r, same ▸ held, E.refl r⟩
  · rw [seen] at seen'
    cases seen'
    exact ⟨r, by rw [same, Cell.held_write], E.refl r⟩
  · rw [seen] at seen'
    cases seen'
    exact ⟨_, by rw [same, Cell.held_write], E.apply change r⟩
  · rw [empty] at held
    cases held

/-- A version of a row after a step derives from an earlier one, or the row has just been
inserted. -/
theorem CellStep.versions (E : Evolution S) (h : CellStep i c c') {r' : S.Row t}
    (mem : r' ∈ c'.versions) : (∃ r ∈ c.versions, E.Rel r r') ∨ c = {} ∧ c' = c.write i r' := by
  have write : ∀ w, r' ∈ (c.write i w).versions → r' ∈ c.versions ∨ r' = w := fun w mem => by
    simp only [Cell.versions, Cell.write, List.mem_append, Option.mem_toList, Option.toList_some,
      List.map_singleton, List.mem_singleton] at mem ⊢
    exact mem.imp_left .inl
  have old : ∀ {r}, r ∈ c.versions → r' ∈ c.versions ∨ r' = r → ∃ r ∈ c.versions, E.Rel r r' := by
    rintro r known (mem | rfl)
    · exact ⟨r', mem, E.refl r'⟩
    · exact ⟨r', known, E.refl r'⟩
  cases h with
  | same => exact .inl ⟨r', mem, E.refl r'⟩
  | lock seen free => exact .inl (old (Cell.mem_versions_of_visible seen) (write _ mem))
  | update seen free change =>
    rcases write _ mem with mem | rfl
    · exact .inl ⟨r', mem, E.refl r'⟩
    · exact .inl ⟨_, Cell.mem_versions_of_visible seen, E.apply change _⟩
  | insert empty =>
    rcases write _ mem with mem | rfl
    · exact .inl ⟨r', mem, E.refl r'⟩
    · exact .inr ⟨empty, rfl⟩
  | commit =>
    rw [Cell.mem_versions] at mem
    rcases mem with committed | ⟨j, held⟩
    · exact .inl ⟨r', Cell.mem_versions_of_visible (Cell.committed_commit.symm.trans committed),
        E.refl r'⟩
    · by_cases own : j = i
      · rw [own, Cell.held_commit] at held
        cases held
      · rw [Cell.held_commit_of_ne own] at held
        exact .inl ⟨r', Cell.mem_versions.2 (.inr ⟨j, held⟩), E.refl r'⟩
  | rollback =>
    rw [Cell.mem_versions] at mem
    rcases mem with committed | ⟨j, held⟩
    · exact .inl ⟨r', Cell.mem_versions.2 (.inl (Cell.committed_rollback.symm.trans committed)),
        E.refl r'⟩
    · by_cases own : j = i
      · rw [own, Cell.held_rollback] at held
        cases held
      · rw [Cell.held_rollback_of_ne own] at held
        exact .inl ⟨r', Cell.mem_versions.2 (.inr ⟨j, held⟩), E.refl r'⟩

/-- What holds of all versions of the rows of a table is kept, when updates and insertions keep
it. -/
theorem exec_versions (h : db.exec i s = some (answer, db')) {P : S.Row t → Prop}
    (old : ∀ k, ∀ r ∈ (db.cell ⟨t, k⟩).versions, P r)
    (update : ∀ k q change r, s = .update t k q change → (db.cell ⟨t, k⟩).visible i = some r →
      S.holds q r = true → P (S.apply change r))
    (insert : ∀ r, s = .insert t r → P r) (k : String) :
    ∀ r ∈ (db'.cell ⟨t, k⟩).versions, P r := by
  have write : ∀ {c : Cell (S.Row t)} {w : S.Row t}, (∀ r ∈ c.versions, P r) → P w →
      ∀ r ∈ (c.write i w).versions, P r := by
    intro c w known new r mem
    simp only [Cell.versions, Cell.write, List.mem_append, Option.mem_toList, Option.toList_some,
      List.map_singleton, List.mem_singleton] at mem known
    rcases mem with mem | rfl
    · exact known r (.inl mem)
    · exact new
  by_cases commit : s = .commit
  · subst commit
    cases h
    intro r mem
    rcases Cell.mem_versions.1 mem with committed | ⟨j, held⟩
    · exact old k r (Cell.mem_versions_of_visible (Cell.committed_commit.symm.trans committed))
    · by_cases own : j = i
      · rw [own, Db.cell_commit, Cell.held_commit] at held
        cases held
      · rw [Db.cell_commit, Cell.held_commit_of_ne own] at held
        exact old k r (Cell.mem_versions.2 (.inr ⟨j, held⟩))
  by_cases rollback : s = .rollback
  · subst rollback
    cases h
    intro r mem
    rcases Cell.mem_versions.1 mem with committed | ⟨j, held⟩
    · exact old k r (Cell.mem_versions.2 (.inl (Cell.committed_rollback.symm.trans committed)))
    · by_cases own : j = i
      · rw [own, Db.cell_rollback, Cell.held_rollback] at held
        cases held
      · rw [Db.cell_rollback, Cell.held_rollback_of_ne own] at held
        exact old k r (Cell.mem_versions.2 (.inr ⟨j, held⟩))
  rcases exec_within h commit rollback ⟨t, k⟩ with same | ⟨r, seen, -, same⟩ |
    ⟨q, change, r, stmt, seen, matching, -, same⟩ | ⟨r, stmt, -, -, same⟩
  · rw [same]
    exact old k
  · rw [same]
    exact write (old k) (old k r (Cell.mem_versions_of_visible seen))
  · rw [same]
    exact write (old k) (update k q change r stmt seen matching)
  · rw [same]
    exact write (old k) (insert r stmt)

/-! ## Unique columns -/

/-- No two rows of a table have the same value in a column. -/
def Db.Distinct {κ : Type*} (column : S.Row t → Option κ) (db : Db S) : Prop :=
  ∀ k k' r r' x, r ∈ (db.cell ⟨t, k⟩).versions → r' ∈ (db.cell ⟨t, k'⟩).versions →
    column r = some x → column r' = some x → k = k'

section Distinct

variable {κ : Type*} {column : S.Row t → Option κ} (E : Evolution S)

theorem Db.Distinct.rollback (d : db.Distinct column) : (db.rollback i).Distinct column := by
  have old : ∀ {k r}, r ∈ ((db.rollback i).cell ⟨t, k⟩).versions → r ∈ (db.cell ⟨t, k⟩).versions := by
    intro k r mem
    rw [Cell.mem_versions] at mem ⊢
    refine mem.imp (Cell.committed_rollback.symm.trans ·) fun ⟨j, held⟩ => ⟨j, ?_⟩
    by_cases own : j = i
    · rw [own, Db.cell_rollback, Cell.held_rollback] at held
      cases held
    · rwa [Db.cell_rollback, Cell.held_rollback_of_ne own] at held
  exact fun k k' r r' x mem mem' => d k k' r r' x (old mem) (old mem')

/-- A column that assignments at most clear and that insertions check stays unique. -/
theorem Db.Distinct.exec (d : db.Distinct column)
    (kept : ∀ (r r' : S.Row t) x, E.Rel r r' → column r' = some x → column r = some x)
    (clash : ∀ (r r' : S.Row t) x, column r = some x → column r' = some x →
      S.clashes r r' = true) (h : db.exec i s = some (answer, db')) : db'.Distinct column := by
  have old : ∀ {k r}, r ∈ (db'.cell ⟨t, k⟩).versions →
      (∃ r₀ ∈ (db.cell ⟨t, k⟩).versions, ∀ x, column r = some x → column r₀ = some x) ∨
      s = .insert t r ∧ S.key r = k := by
    intro k r mem
    rcases (exec_cell h ⟨t, k⟩).versions E mem with ⟨r₀, mem₀, rel⟩ | ⟨empty, written⟩
    · exact .inl ⟨r₀, mem₀, fun x => kept r₀ r x rel⟩
    · by_cases within : s ≠ .commit ∧ s ≠ .rollback
      · have new : (db'.cell ⟨t, k⟩).New i r := by
          rw [written, empty]
          exact ⟨rfl, Cell.held_write⟩
        refine .inr ((exec_new E h within.1 within.2 new).resolve_left ?_)
        rintro ⟨r₀, ⟨-, held⟩, -⟩
        rw [empty] at held
        cases held
      · exfalso
        have locked : (db'.cell ⟨t, k⟩).held i = some r := by rw [written, Cell.held_write]
        rcases not_and_or.1 within with commit | rollback
        · obtain rfl := not_not.1 commit
          cases h
          rw [Db.cell_commit, Cell.held_commit] at locked
          cases locked
        · obtain rfl := not_not.1 rollback
          cases h
          rw [Db.cell_rollback, Cell.held_rollback] at locked
          cases locked
  have fresh : ∀ {k r r'} {x : κ}, s = .insert t r → r' ∈ (db.cell ⟨t, k⟩).versions →
      column r = some x → column r' = some x → db' = db := by
    rintro k r r' x rfl mem hr hr'
    rcases Db.insert_cases h with ⟨-, same⟩ | ⟨-, -, -, clear⟩
    · exact same
    · have differs := clear k r' mem
      rw [clash r r' x hr hr'] at differs
      cases differs
  intro k k' r r' x mem mem' hr hr'
  rcases old mem with ⟨r₀, mem₀, same⟩ | ⟨insert, key⟩
  · rcases old mem' with ⟨r₀', mem₀', same'⟩ | ⟨insert', -⟩
    · exact d k k' r₀ r₀' x mem₀ mem₀' (same x hr) (same' x hr')
    · obtain rfl := fresh insert' mem₀ hr' (same x hr)
      exact d k k' r r' x mem mem' hr hr'
  · rcases old mem' with ⟨r₀', mem₀', same'⟩ | ⟨insert', key'⟩
    · obtain rfl := fresh insert mem₀' hr (same' x hr')
      exact d k k' r r' x mem mem' hr hr'
    · rw [insert] at insert'
      cases insert'
      exact key.symm.trans key'

end Distinct

end CellStep

/-! ## What a transaction knows -/

/-- The rows a transaction has locked, and for each table the where clause of the rows it has listed
with the keys of those that still satisfy it. -/
structure Tx (S : Schema) where
  held : (a : Addr S) → Option (S.Row a.1) := fun _ => none
  listed : (t : S.Tab) → Option (S.Query t × List String) := fun _ => none

namespace Tx

variable (tx : Tx S)

/-- Change what is known of the listed rows of a table. -/
def relist (t : S.Tab) (f : S.Query t → List String → List String) : Tx S :=
  { tx with
    listed := Function.update tx.listed t ((tx.listed t).map fun l => (l.1, f l.1 l.2)) }

/-- The transaction has written a row. -/
def wrote (t : S.Tab) (r : S.Row t) : Tx S where
  held := Function.update tx.held ⟨t, S.key r⟩ (some r)
  listed := (tx.relist t fun q keys =>
    if S.holds q r then keys.insert (S.key r) else keys.filter (· ≠ S.key r)).listed

/-- The row with a key does not satisfy a where clause. -/
def missed (t : S.Tab) (k : String) (q : S.Query t) : Tx S :=
  tx.relist t fun q' keys => if q' = q then keys.filter (· ≠ k) else keys

/-- What a transaction knows after an answer; `guard` says which lists it can keep up to date. -/
def observe (guard : (t : S.Tab) → S.Query t → Bool) : (s : Stmt S) → s.Answer → Tx S
  | .select t q, rows =>
    let keys := (show List (S.Row t) from rows).map S.key
    { tx with
      listed := Function.update tx.listed t (if guard t q then some (q, keys) else none) }
  | .lock t k q, answer =>
    match (show Option (S.Row t) from answer) with
    | some r => tx.wrote t r
    | none => tx.missed t k q
  | .update t k q _, answer =>
    match (show Option (S.Row t) from answer) with
    | some r => tx.wrote t r
    | none => tx.missed t k q
  | .insert t row, inserted => if (show Bool from inserted) then tx.wrote t row else tx
  | .commit, _ => {}
  | .rollback, _ => {}

/-- The transaction `i` knows what it has locked. -/
def Mirrors (db : Db S) (i : Nat) : Prop := ∀ a, tx.held a = (db.cell a).held i

/-- The transaction `i` knows all rows that it sees and the where clause of its list selects. -/
def Lists (db : Db S) (i : Nat) (t : S.Tab) : Prop :=
  ∀ q keys, tx.listed t = some (q, keys) → ∀ k r, (db.cell ⟨t, k⟩).visible i = some r →
    S.holds q r = true → k ∈ keys

variable {tx} {db db' : Db S} {i j : Nat} {t t' : S.Tab} {k : String} {r : S.Row t}

theorem listed_relist (f : S.Query t → List String → List String) :
    (tx.relist t f).listed t = (tx.listed t).map fun l => (l.1, f l.1 l.2) :=
  Function.update_self ..

theorem listed_relist_of_ne (f : S.Query t → List String → List String) (other : t' ≠ t) :
    (tx.relist t f).listed t' = tx.listed t' :=
  Function.update_of_ne other ..

@[simp] theorem held_wrote : (tx.wrote t r).held ⟨t, S.key r⟩ = some r := Function.update_self ..

theorem held_wrote_of_ne {a : Addr S} (other : a ≠ ⟨t, S.key r⟩) :
    (tx.wrote t r).held a = tx.held a :=
  Function.update_of_ne other ..

theorem listed_wrote : (tx.wrote t r).listed t = (tx.listed t).map fun l => (l.1,
    if S.holds l.1 r then l.2.insert (S.key r) else l.2.filter (· ≠ S.key r)) := by
  simp only [wrote, listed_relist]

theorem listed_wrote_of_ne (other : t' ≠ t) : (tx.wrote t r).listed t' = tx.listed t' := by
  simp only [wrote, listed_relist_of_ne _ other]

theorem listed_missed {q : S.Query t} : (tx.missed t k q).listed t = (tx.listed t).map fun l =>
    (l.1, if l.1 = q then l.2.filter (· ≠ k) else l.2) :=
  listed_relist ..

theorem listed_missed_of_ne {q : S.Query t} (other : t' ≠ t) :
    (tx.missed t k q).listed t' = tx.listed t' :=
  listed_relist_of_ne _ other

theorem listed_select_of_ne {guard : (t : S.Tab) → S.Query t → Bool} {q : S.Query t}
    {rows : List (S.Row t)} (other : t' ≠ t) :
    (tx.observe guard (.select t q) rows).listed t' = tx.listed t' :=
  Function.update_of_ne other ..

theorem Mirrors.wrote (h : tx.Mirrors db i) : (tx.wrote t r).Mirrors (db.write i t r) i := by
  intro a
  by_cases same : a = ⟨t, S.key r⟩
  · subst same
    rw [held_wrote, Db.cell_write, Cell.held_write]
  · rw [held_wrote_of_ne same, Db.cell_write_of_ne same]
    exact h a

theorem mirrors_reset (clear : ∀ a, (db.cell a).held i = none) : ({} : Tx S).Mirrors db i :=
  fun a => (clear a).symm

/-- A transaction keeps track of its locks. -/
theorem Mirrors.observe (h : tx.Mirrors db i) {s : Stmt S} {answer : s.Answer}
    (guard : (t : S.Tab) → S.Query t → Bool) (he : db.exec i s = some (answer, db')) :
    (tx.observe guard s answer).Mirrors db' i := by
  cases s with
  | select t q =>
    cases he
    exact h
  | lock t k q =>
    rcases Db.writeWhen_cases he with ⟨rfl, rfl, -⟩ | ⟨r, -, -, -, rfl, rfl⟩
    · exact h
    · exact h.wrote
  | update t k q change =>
    rcases Db.writeWhen_cases he with ⟨rfl, rfl, -⟩ | ⟨r, -, -, -, rfl, rfl⟩
    · exact h
    · exact h.wrote
  | insert t row =>
    rcases Db.insert_cases he with ⟨rfl, rfl⟩ | ⟨rfl, rfl, -, -⟩
    · exact h
    · exact h.wrote
  | commit =>
    cases he
    exact mirrors_reset fun a => Cell.held_commit
  | rollback =>
    cases he
    exact mirrors_reset fun a => Cell.held_rollback

/-- A row is locked by one transaction. -/
theorem Mirrors.exclusive {tx' : Tx S} (h : tx.Mirrors db i) (h' : tx'.Mirrors db j) {a : Addr S}
    (held : (tx.held a).isSome = true) (held' : (tx'.held a).isSome = true) : i = j := by
  obtain ⟨r, hr⟩ := Option.isSome_iff_exists.1 held
  obtain ⟨r', hr'⟩ := Option.isSome_iff_exists.1 held'
  rw [h, Cell.held_eq_some] at hr
  rw [h', Cell.held_eq_some, hr] at hr'
  cases hr'
  rfl

/-- The steps of another transaction leave the locks alone. -/
theorem Mirrors.other (h : tx.Mirrors db i) {db' : Db S}
    (steps : ∀ a, CellStep j (db.cell a) (db'.cell a)) (other : i ≠ j) : tx.Mirrors db' i :=
  fun a => (h a).trans ((steps a).held_of_ne other).symm

theorem Lists.wrote (h : tx.Lists db i t') : (tx.wrote t r).Lists (db.write i t r) i t' := by
  intro q keys listed k r' seen holds
  by_cases table : t' = t
  · subst table
    rw [listed_wrote] at listed
    obtain ⟨⟨q, keys⟩, old, same⟩ := Option.map_eq_some_iff.1 listed
    cases same
    by_cases written : k = S.key r
    · subst written
      rw [Db.cell_write, Cell.visible_write] at seen
      cases seen
      simp [holds]
    · have elsewhere : (⟨t', k⟩ : Addr S) ≠ ⟨t', S.key r⟩ := fun e => written (by cases e; rfl)
      rw [Db.cell_write_of_ne elsewhere] at seen
      have mem := h q keys old k r' seen holds
      simp only
      split_ifs
      · exact List.mem_insert_of_mem mem
      · simpa using ⟨mem, written⟩
  · rw [listed_wrote_of_ne table] at listed
    have elsewhere : (⟨t', k⟩ : Addr S) ≠ ⟨t, S.key r⟩ := fun e => table (by cases e; rfl)
    rw [Db.cell_write_of_ne elsewhere] at seen
    exact h q keys listed k r' seen holds

theorem Lists.missed (h : tx.Lists db i t') {q : S.Query t}
    (miss : ∀ r, (db.cell ⟨t, k⟩).visible i = some r → S.holds q r = false) :
    (tx.missed t k q).Lists db i t' := by
  intro q' keys listed k' r' seen holds
  by_cases table : t' = t
  · subst table
    rw [listed_missed] at listed
    obtain ⟨⟨q', keys⟩, old, same⟩ := Option.map_eq_some_iff.1 listed
    cases same
    have mem := h q' keys old k' r' seen holds
    simp only
    split_ifs with query
    · subst query
      have elsewhere : k' ≠ k := by
        rintro rfl
        rw [miss r' seen] at holds
        cases holds
      simpa using ⟨mem, elsewhere⟩
    · exact mem
  · rw [listed_missed_of_ne table] at listed
    exact h q' keys listed k' r' seen holds

/-- A transaction keeps track of the rows it has listed. -/
theorem Lists.observe (h : tx.Lists db i t) {s : Stmt S} {answer : s.Answer}
    (guard : (t : S.Tab) → S.Query t → Bool) (he : db.exec i s = some (answer, db')) :
    (tx.observe guard s answer).Lists db' i t := by
  cases s with
  | select t' q =>
    cases he
    intro q' keys listed k r seen holds
    by_cases table : t = t'
    · subst table
      simp only [Tx.observe, Function.update_self] at listed
      split_ifs at listed
      cases listed
      have found : r ∈ db.rows i t q' :=
        Db.mem_rows.2 ⟨(Db.key_of_visible seen).symm ▸ seen, holds⟩
      exact List.mem_map.2 ⟨r, found, Db.key_of_visible seen⟩
    · simp only [Tx.observe, Function.update_of_ne table] at listed
      exact h q' keys listed k r seen holds
  | lock t' k q =>
    rcases Db.writeWhen_cases he with ⟨rfl, rfl, miss⟩ | ⟨r, -, -, -, rfl, rfl⟩
    · exact h.missed miss
    · exact h.wrote
  | update t' k q change =>
    rcases Db.writeWhen_cases he with ⟨rfl, rfl, miss⟩ | ⟨r, -, -, -, rfl, rfl⟩
    · exact h.missed miss
    · exact h.wrote
  | insert t' row =>
    rcases Db.insert_cases he with ⟨rfl, rfl⟩ | ⟨rfl, rfl, -, -⟩
    · exact h
    · exact h.wrote
  | commit => exact nofun
  | rollback => exact nofun

/-- A list was known before under the same where clause, or it was just selected and the transaction
can keep it up to date. -/
theorem listed_observe {guard : (t : S.Tab) → S.Query t → Bool} {s : Stmt S} {answer : s.Answer}
    {q : S.Query t} {keys : List String}
    (h : (tx.observe guard s answer).listed t = some (q, keys)) :
    (∃ old, tx.listed t = some (q, old)) ∨ s = .select t q ∧ guard t q = true := by
  have wrote : ∀ (t' : S.Tab) (r : S.Row t'), (tx.wrote t' r).listed t = some (q, keys) →
      ∃ old, tx.listed t = some (q, old) := by
    intro t' r h
    by_cases same : t = t'
    · subst same
      rw [listed_wrote] at h
      obtain ⟨⟨q', old⟩, listed, e⟩ := Option.map_eq_some_iff.1 h
      cases e
      exact ⟨old, listed⟩
    · rw [listed_wrote_of_ne same] at h
      exact ⟨keys, h⟩
  have missed : ∀ (t' : S.Tab) (k : String) (q' : S.Query t'),
      (tx.missed t' k q').listed t = some (q, keys) → ∃ old, tx.listed t = some (q, old) := by
    intro t' k q' h
    by_cases same : t = t'
    · subst same
      rw [listed_missed] at h
      obtain ⟨⟨q', old⟩, listed, e⟩ := Option.map_eq_some_iff.1 h
      cases e
      exact ⟨old, listed⟩
    · rw [listed_missed_of_ne same] at h
      exact ⟨keys, h⟩
  cases s with
  | select t' q' =>
    by_cases same : t = t'
    · subst same
      simp only [Tx.observe, Function.update_self] at h
      split_ifs at h with guarded
      cases h
      exact .inr ⟨rfl, guarded⟩
    · simp only [Tx.observe, Function.update_of_ne same] at h
      exact .inl ⟨keys, h⟩
  | lock t' k q' =>
    cases answer with
    | none => exact .inl (missed t' k q' h)
    | some r => exact .inl (wrote t' r h)
  | update t' k q' change =>
    cases answer with
    | none => exact .inl (missed t' k q' h)
    | some r => exact .inl (wrote t' r h)
  | insert t' row =>
    cases answer with
    | false => exact .inl ⟨keys, h⟩
    | true => exact .inl (wrote t' row h)
  | commit => cases h
  | rollback => cases h

/-- Within a transaction a list is kept until its table is selected from again. -/
theorem listed_kept {guard : (t : S.Tab) → S.Query t → Bool} {s : Stmt S} {answer : s.Answer}
    {q : S.Query t} {keys : List String} (h : tx.listed t = some (q, keys)) (commit : s ≠ .commit)
    (rollback : s ≠ .rollback) (other : ∀ q', s ≠ .select t q') :
    ∃ keys', (tx.observe guard s answer).listed t = some (q, keys') := by
  have wrote : ∀ (t' : S.Tab) (r : S.Row t'),
      ∃ keys', (tx.wrote t' r).listed t = some (q, keys') := by
    intro t' r
    by_cases same : t = t'
    · subst same
      exact ⟨_, by rw [listed_wrote, h, Option.map_some]⟩
    · exact ⟨keys, (listed_wrote_of_ne same).trans h⟩
  have missed : ∀ (t' : S.Tab) (k : String) (q' : S.Query t'),
      ∃ keys', (tx.missed t' k q').listed t = some (q, keys') := by
    intro t' k q'
    by_cases same : t = t'
    · subst same
      exact ⟨_, by rw [listed_missed, h, Option.map_some]⟩
    · exact ⟨keys, (listed_missed_of_ne same).trans h⟩
  cases s with
  | select t' q' =>
    have apart : t ≠ t' := by
      rintro rfl
      exact other q' rfl
    exact ⟨keys, (listed_select_of_ne apart).trans h⟩
  | lock t' k q' =>
    cases answer with
    | none => exact missed t' k q'
    | some r => exact wrote t' r
  | update t' k q' change =>
    cases answer with
    | none => exact missed t' k q'
    | some r => exact wrote t' r
  | insert t' row =>
    cases answer with
    | false => exact ⟨keys, h⟩
    | true => exact wrote t' row
  | commit => exact absurd rfl commit
  | rollback => exact absurd rfl rollback

/-- The steps of another transaction keep a list, when rows only leave it and no row that the other
transaction has inserted belongs to it. -/
theorem Lists.other {E : Evolution S} (h : tx.Lists db i t)
    (steps : ∀ a, CellStep j (db.cell a) (db'.cell a)) (derived : ∀ a, (db.cell a).Derived E)
    (other : i ≠ j)
    (leaves : ∀ q keys, tx.listed t = some (q, keys) → ∀ r r' : S.Row t, E.Rel r r' →
      S.holds q r' = true → S.holds q r = true)
    (unrelated : ∀ q keys, tx.listed t = some (q, keys) → ∀ k r,
      (db.cell ⟨t, k⟩).committed = none → (db.cell ⟨t, k⟩).held j = some r → S.holds q r = false) :
    tx.Lists db' i t := by
  intro q keys listed k r' seen holds
  rcases (steps ⟨t, k⟩).visible_of_ne (derived _) other seen with ⟨r, old, rel⟩ | ⟨new, held⟩
  · exact h q keys listed k r old (leaves q keys listed r r' rel holds)
  · rw [unrelated q keys listed k r' new held] at holds
    cases holds

end Tx

/-- What a transaction that has locked these rows may be told. -/
def Stmt.Possible (held : (a : Addr S) → Option (S.Row a.1)) : (s : Stmt S) → s.Answer → Prop
  | .select t q, rows => ∀ r ∈ (show List (S.Row t) from rows),
    S.holds q r = true ∧ ∀ own, held ⟨t, S.key r⟩ = some own → r = own
  | .lock t k q, answer => ∀ r, (show Option (S.Row t) from answer) = some r →
    S.key r = k ∧ S.holds q r = true
  | .update t k q change, answer => ∀ r', (show Option (S.Row t) from answer) = some r' →
    ∃ r, S.key r = k ∧ S.holds q r = true ∧ r' = S.apply change r
  | _, _ => True

namespace Tx

/-! ### Sweeping a list -/

/-- The rows of a list that are left are among these. -/
def Left (tx : Tx S) (t : S.Tab) (q : S.Query t) (rows : List (S.Row t)) : Prop :=
  ∃ keys, tx.listed t = some (q, keys) ∧ keys ⊆ rows.map S.key

variable {tx : Tx S} {t : S.Tab} {q q' : S.Query t} {change : S.Change t}

theorem left_select {guard : (t : S.Tab) → S.Query t → Bool} (guarded : guard t q = true)
    (rows : List (S.Row t)) :
    (tx.observe guard (.select t q) rows).Left t q rows := by
  refine ⟨rows.map S.key, ?_, List.Subset.refl _⟩
  simp only [Tx.observe, guarded, if_true, Function.update_self]

theorem Left.listed (h : tx.Left t q []) : tx.listed t = some (q, []) := by
  obtain ⟨keys, listed, none⟩ := h
  rw [listed, List.subset_nil.1 none]

/-- An update takes its row out of the list. -/
theorem Left.update {row : S.Row t} {rows : List (S.Row t)} (h : tx.Left t q (row :: rows))
    (guard : (t : S.Tab) → S.Query t → Bool)
    (leaves : ∀ r, S.holds q (S.apply change r) = false) {answer : Option (S.Row t)}
    (possible : (Stmt.update t (S.key row) q' change).Possible tx.held answer)
    (answered : q' = q ∨ answer ≠ none) :
    (tx.observe guard (.update t (S.key row) q' change) answer).Left t q rows := by
  obtain ⟨keys, listed, among⟩ := h
  have rest : keys.filter (· ≠ S.key row) ⊆ rows.map S.key := by
    intro key mem
    obtain ⟨mem, other⟩ := List.mem_filter.1 mem
    rcases List.mem_cons.1 (among mem) with same | mem
    · simp [same] at other
    · exact mem
  refine ⟨_, ?_, rest⟩
  cases answer with
  | none =>
    obtain rfl : q' = q := answered.resolve_right fun found => found rfl
    refine Tx.listed_missed.trans ?_
    rw [listed, Option.map_some, if_pos rfl]
  | some row' =>
    obtain ⟨r, key, -, same⟩ := possible row' rfl
    have written : S.key row' = S.key row := by
      rw [same, ← key]
      exact S.key_apply change r
    have missing : S.holds q row' = false := same ▸ leaves r
    refine Tx.listed_wrote.trans ?_
    rw [listed, Option.map_some]
    simp [missing, written]

end Tx

/-- A transaction is told what is possible. -/
theorem Tx.Mirrors.possible {tx : Tx S} {db db' : Db S} {i : Nat} (h : tx.Mirrors db i) {s : Stmt S}
    {answer : s.Answer} (he : db.exec i s = some (answer, db')) : s.Possible tx.held answer := by
  cases s with
  | select t q =>
    cases he
    intro r found
    obtain ⟨seen, holds⟩ := Db.mem_rows.1 found
    refine ⟨holds, fun own held => ?_⟩
    rw [h] at held
    rw [Cell.visible_of_held held] at seen
    exact (Option.some.inj seen).symm
  | lock t k q =>
    rcases Db.writeWhen_cases he with ⟨rfl, -, -⟩ | ⟨r, seen, holds, -, rfl, -⟩
    · exact nofun
    · rintro r' same
      cases same
      exact ⟨Db.key_of_visible seen, holds⟩
  | update t k q change =>
    rcases Db.writeWhen_cases he with ⟨rfl, -, -⟩ | ⟨r, seen, holds, -, rfl, -⟩
    · exact nofun
    · rintro r' same
      cases same
      exact ⟨r, Db.key_of_visible seen, holds, rfl⟩
  | insert t row => trivial
  | commit => trivial
  | rollback => trivial

end ReadCommitted
