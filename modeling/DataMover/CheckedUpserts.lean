import DataMover.Upserting

/-!
# Upserts into a table with constraints

A table may forbid two of its rows to clash.  The rows after several upserts are the rows of the table
that none of them meets and the rows that were written, so no two of them clash when no written row
clashes with such a row or with another written row.  A statement that checks the table after each row is
refused exactly when some of its first rows leave a clash behind.
-/

namespace Upserting

variable {Row Defaults Key View : Type} [DecidableEq Key] (U : Upserting Row Defaults Key View)

/-! ## Written rows -/

/-- The rows of a table that no row meets. -/
def left (table rows : List Row) : List Row :=
  table.filter fun t => ∀ s ∈ rows, ¬ Conflicts U.key t s

/-- What becomes of a row in a table: the update of the row of its key, or an insertion. -/
def written (d : Defaults) (table : List Row) (s : Row) : Row :=
  match table.find? (fun t => Conflicts U.key t s) with
  | some t => U.update t s
  | none => U.insert d s

variable {U} {d : Defaults} {table rows : List Row} {s t : Row}

theorem written_of_conflict (distinct : Distinct U.key table) (mem : t ∈ table)
    (conflict : Conflicts U.key t s) : U.written d table s = U.update t s := by
  obtain ⟨x, found⟩ : ∃ x, table.find? (fun t => Conflicts U.key t s) = some x :=
    Option.isSome_iff_exists.1 (List.find?_isSome.2 ⟨t, mem, decide_eq_true conflict⟩)
  have meets : Conflicts U.key x s := by simpa using List.find?_some found
  have same : x = t := by
    by_contra ne
    exact List.Pairwise.forall distinct (List.mem_of_find?_eq_some found) mem ne
      (meets.trans conflict.symm)
  rw [written, found, same]

theorem written_of_fresh (fresh : ∀ t ∈ table, ¬ Conflicts U.key t s) :
    U.written d table s = U.insert d s := by
  have none : table.find? (fun t => Conflicts U.key t s) = none :=
    List.find?_eq_none.2 fun t mem => by simpa using fresh t mem
  rw [written, none]

theorem key_written (distinct : Distinct U.key table) : U.key (U.written d table s) = U.key s := by
  by_cases conflict : ∃ t ∈ table, Conflicts U.key t s
  · obtain ⟨t, mem, conflict⟩ := conflict
    rw [written_of_conflict distinct mem conflict, U.key_update, conflict.2]
  · rw [written_of_fresh fun t mem h => conflict ⟨t, mem, h⟩, U.key_insert]

theorem conflicts_written (distinct : Distinct U.key table) {x : Row} :
    Conflicts U.key (U.written d table s) x ↔ Conflicts U.key s x := by
  rw [Conflicts, Conflicts, key_written distinct]

theorem mem_left : t ∈ U.left table rows ↔ t ∈ table ∧ ∀ s ∈ rows, ¬ Conflicts U.key t s := by
  rw [left, List.mem_filter, decide_eq_true_iff]

theorem left_append_singleton (table rows : List Row) (s : Row) :
    U.left table (rows ++ [s]) = (U.left table rows).filter fun t => ¬ Conflicts U.key t s := by
  rw [left, left, List.filter_filter]
  refine List.filter_congr fun t _ => ?_
  rw [Bool.eq_iff_iff, decide_eq_true_iff, List.forall_mem_append, List.forall_mem_singleton]
  simp [and_comm]

/-! ## The rows after upserts -/

theorem distinct_upsert (defaults : Nat → Defaults) (distinct : Distinct U.key table) (k : Nat) (s : Row) :
    Distinct U.key (U.upsert defaults k table s) := by
  refine distinct_of_tags (tags_upsert defaults distinct k s) ?_
  refine List.pairwise_append.2 ⟨distinct.filter _, List.pairwise_singleton _ _, fun x hx y hy => ?_⟩
  rw [List.mem_singleton.1 hy]
  simpa using (List.mem_filter.1 hx).2

theorem distinct_upsertAll (defaults : Nat → Defaults) (distinct : Distinct U.key table)
    (rows : List Row) : Distinct U.key (U.upsertAll defaults table rows) := by
  induction rows generalizing table with
  | nil => exact distinct
  | cons s rest ih => exact ih (distinct_upsert defaults distinct 0 s)

/-- The update of the one row that conflicts. -/
theorem perm_update (distinct : Distinct U.key table) (mem : t ∈ table)
    (conflict : Conflicts U.key t s) :
    (table.map fun x => if Conflicts U.key x s then U.update x s else x).Perm
      ((table.filter fun x => ¬ Conflicts U.key x s) ++ [U.update t s]) := by
  induction table with
  | nil => cases mem
  | cons x rest ih =>
    obtain ⟨first, others⟩ := List.pairwise_cons.1 distinct
    rw [List.map_cons]
    by_cases h : Conflicts U.key x s
    · have same : x = t := by
        rcases List.mem_cons.1 mem with rfl | mem
        · rfl
        · exact absurd (h.trans conflict.symm) (first t mem)
      have apart : ∀ y ∈ rest, ¬ Conflicts U.key y s := fun y hy hys =>
        first y hy (h.trans hys.symm)
      have unchanged : rest.map (fun x => if Conflicts U.key x s then U.update x s else x) = rest :=
        (List.map_congr_left fun y hy => if_neg (apart y hy)).trans (List.map_id' rest)
      have kept : rest.filter (fun x => ¬ Conflicts U.key x s) = rest :=
        List.filter_eq_self.2 fun y hy => decide_eq_true (apart y hy)
      rw [if_pos h, unchanged, List.filter_cons_of_neg (by simpa using h), kept, same]
      exact (List.perm_append_singleton _ _).symm
    · rw [if_neg h, List.filter_cons_of_pos (by simpa using h), List.cons_append]
      refine (ih others ?_).cons x
      rcases List.mem_cons.1 mem with rfl | mem
      · exact absurd conflict h
      · exact mem

/-- **After upserts of rows without repeated keys** the table has the rows that none of them meets, and
the written rows. -/
theorem perm_upsertAll {defaults : Nat → Defaults} (plain : ∀ k s, U.insert (defaults k) s = U.insert d s)
    (distinct : Distinct U.key table) (apart : Distinct U.key rows) :
    (U.upsertAll defaults table rows).Perm (U.left table rows ++ rows.map (U.written d table)) := by
  induction rows using List.reverseRecOn with
  | nil =>
    have all : U.left table [] = table := List.filter_eq_self.2 fun t _ => by simp
    rw [all, List.map_nil, List.append_nil]
    exact List.Perm.refl _
  | append_singleton rest s ih =>
    obtain ⟨rests, -, fresh⟩ := List.pairwise_append.1 apart
    have perm := ih rests
    have whole := distinct_upsertAll defaults distinct rest
    have step : U.upsertAll defaults table (rest ++ [s]) =
        U.upsert defaults 0 (U.upsertAll defaults table rest ++ []) s := by
      rw [upsertAll, List.foldl_append, List.append_nil]
      rfl
    have unmet : ∀ x ∈ rest.map (U.written d table), ¬ Conflicts U.key x s := by
      intro x hx
      obtain ⟨r, hr, rfl⟩ := List.mem_map.1 hx
      rw [conflicts_written distinct]
      exact fresh r hr s (List.mem_singleton.2 rfl)
    rw [step, left_append_singleton, List.map_append, List.map_singleton]
    by_cases conflict : ∃ t ∈ table, Conflicts U.key t s
    · obtain ⟨t, mem, conflict⟩ := conflict
      have here : t ∈ U.left table rest := mem_left.2 ⟨mem, fun r hr htr =>
        fresh r hr s (List.mem_singleton.2 rfl) (htr.symm.trans conflict)⟩
      have found : ∃ x ∈ U.upsertAll defaults table rest, Conflicts U.key x s :=
        ⟨t, perm.mem_iff.2 (List.mem_append_left _ here), conflict⟩
      have unchanged : (rest.map (U.written d table)).map
          (fun x => if Conflicts U.key x s then U.update x s else x) = rest.map (U.written d table) :=
        (List.map_congr_left fun x hx => if_neg (unmet x hx)).trans (List.map_id' _)
      rw [upsert_append_of_conflict whole found, List.append_nil, written_of_conflict distinct mem conflict]
      refine (perm.map _).trans ?_
      rw [List.map_append, unchanged]
      refine ((perm_update (distinct.filter _) here conflict).append_right _).trans ?_
      rw [List.append_assoc]
      exact List.perm_append_comm.append_left _
    · have fresh : ∀ t ∈ table, ¬ Conflicts U.key t s := fun t mem h => conflict ⟨t, mem, h⟩
      have kept : (U.left table rest).filter (fun t => ¬ Conflicts U.key t s) = U.left table rest :=
        List.filter_eq_self.2 fun t ht => decide_eq_true (fresh t (mem_left.1 ht).1)
      have alone : ∀ x ∈ U.upsertAll defaults table rest, ¬ Conflicts U.key x s := by
        intro x hx
        rcases List.mem_append.1 (perm.mem_iff.1 hx) with hx | hx
        · exact fresh x (mem_left.1 hx).1
        · exact unmet x hx
      rw [upsert_append_of_fresh alone, kept, written_of_fresh fresh, ← List.append_assoc, upsert, plain]
      exact perm.append_right _

variable (U) in
/-- The rows of a table after upserts: a row that is met is updated, and new keys follow. -/
def merged (d : Defaults) (table rows : List Row) : List Row :=
  table.map (U.updated rows) ++
    (rows.filter fun s => ∀ t ∈ table, ¬ Conflicts U.key t s).map (U.insert d)

/-- Upserts of rows without repeated keys merge them into the table. -/
theorem upsertAll_eq_merged {defaults : Nat → Defaults}
    (plain : ∀ k s, U.insert (defaults k) s = U.insert d s)
    (distinct : Distinct U.key table) (apart : Distinct U.key rows) :
    U.upsertAll defaults table rows = U.merged d table rows := by
  induction rows using List.reverseRecOn with
  | nil => exact ((List.append_nil _).trans (List.map_id'' (fun _ => rfl) table)).symm
  | append_singleton rest s ih =>
    obtain ⟨rests, -, -⟩ := List.pairwise_append.1 apart
    have one (t : Row) : U.updated (rest ++ [s]) t =
        if Conflicts U.key t s then U.update (U.updated rest t) s else U.updated rest t := by
      have last := updated_append_singleton (U := U) rest s t
      rwa [survivors_of_distinct apart, survivors_of_distinct rests] at last
    have step : U.upsertAll defaults table (rest ++ [s]) =
        U.upsert defaults 0 (U.merged d table rest) s := by
      rw [upsertAll, List.foldl_append, ← ih rests]
      rfl
    have head : Distinct U.key (table.map (U.updated rest)) :=
      List.pairwise_map.2 (distinct.imp fun {a b} h h' =>
        h ⟨key_updated (U := U) _ a ▸ h'.1, by simpa only [key_updated] using h'.2⟩)
    rw [step, merged, merged, List.filter_append]
    by_cases conflict : ∃ t ∈ table, Conflicts U.key t s
    · obtain ⟨t, ht, hts⟩ := conflict
      have known : [s].filter (fun s => ∀ t ∈ table, ¬ Conflicts U.key t s) = [] :=
        List.filter_cons_of_neg (by simpa using ⟨t, ht, hts⟩)
      rw [upsert_append_of_conflict head ⟨_, List.mem_map_of_mem ht, conflicts_updated.2 hts⟩,
        List.map_map, known, List.append_nil]
      congr 1
      refine List.map_congr_left fun x _ => ?_
      rw [one, Function.comp_apply]
      simp only [conflicts_updated]
    · have fresh : ∀ t ∈ table, ¬ Conflicts U.key t s := fun t ht h => conflict ⟨t, ht, h⟩
      have new : [s].filter (fun s => ∀ t ∈ table, ¬ Conflicts U.key t s) = [s] :=
        List.filter_cons_of_pos (by simpa using fresh)
      have unmet : ∀ x ∈ U.merged d table rest, ¬ Conflicts U.key x s := by
        intro x hx
        rcases List.mem_append.1 hx with hx | hx
        · obtain ⟨t, ht, rfl⟩ := List.mem_map.1 hx
          exact fun h => fresh t ht (conflicts_updated.1 h)
        · obtain ⟨r, hr, rfl⟩ := List.mem_map.1 hx
          have other := (List.pairwise_append.1 apart).2.2 r (List.mem_filter.1 hr).1 s
            (List.mem_singleton_self s)
          rwa [Conflicts, U.key_insert]
      have same : table.map (U.updated (rest ++ [s])) = table.map (U.updated rest) :=
        List.map_congr_left fun x hx => (one x).trans (if_neg (fresh x hx))
      have last : U.upsert defaults 0 (U.merged d table rest ++ []) s =
          U.merged d table rest ++ U.upsert defaults _ [] s := upsert_append_of_fresh unmet 0 []
      rw [List.append_nil, upsert, plain] at last
      rw [← merged, last, merged, new, same, List.map_append, List.append_assoc]
      rfl

/-! ## Clashes -/

section Clashes

variable (U) (clash : Row → Row → Prop) (d table)

/-- No written row clashes with a row that is left or with another written row. -/
def Clear (rows : List Row) : Prop :=
  (∀ t ∈ U.left table rows, ∀ s ∈ rows, ¬ clash t (U.written d table s)) ∧
    rows.Pairwise fun a b => ¬ clash (U.written d table a) (U.written d table b)

instance [DecidableRel clash] (rows : List Row) : Decidable (U.Clear d table clash rows) :=
  inferInstanceAs (Decidable (_ ∧ _))

variable {U clash d table}

/-- Upserts of rows without repeated keys leave no clash exactly when they are clear of clashes. -/
theorem pairwise_upsertAll {defaults : Nat → Defaults}
    (plain : ∀ k s, U.insert (defaults k) s = U.insert d s) (symm : ∀ a b, clash a b → clash b a)
    (distinct : Distinct U.key table) (apart : Distinct U.key rows)
    (sound : table.Pairwise fun a b => ¬ clash a b) :
    (U.upsertAll defaults table rows).Pairwise (fun a b => ¬ clash a b) ↔
      U.Clear d table clash rows := by
  have swap {a b : Row} (h : ¬ clash a b) : ¬ clash b a := fun h' => h (symm _ _ h')
  have perm : (U.upsertAll defaults table rows).Perm
      (U.left table rows ++ rows.map (U.written d table)) := perm_upsertAll plain distinct apart
  rw [perm.pairwise_iff swap, List.pairwise_append, List.pairwise_map]
  simp only [List.forall_mem_map]
  constructor
  · rintro ⟨-, pairs, cross⟩
    exact ⟨cross, pairs⟩
  · rintro ⟨cross, pairs⟩
    exact ⟨sound.sublist List.filter_sublist, pairs, cross⟩

end Clashes

/-! ## Checked statements -/

/-- What holds of the first row, and of all longer beginnings, holds of every beginning. -/
theorem forall_prefix_cons {α : Type} {P : List α → Prop} {s : α} {rest : List α} (here : P [s])
    (later : ∀ first, first <+: rest → first ≠ [] → P (s :: first)) :
    ∀ first, first <+: s :: rest → first ≠ [] → P first := by
  intro first short ne
  cases first with
  | nil => exact absurd rfl ne
  | cons x first =>
    obtain ⟨rfl, shorter⟩ := List.cons_prefix_cons.1 short
    cases first with
    | nil => exact here
    | cons y others => exact later (y :: others) shorter (List.cons_ne_nil _ _)

section Checked

variable (U) (valid : List Row → Prop) [DecidablePred valid]

/-- Upsert a row in a statement, if that leaves valid rows. -/
def checkedAffect (defaults : Nat → Defaults) (marked : List (Bool × Row)) (s : Row) :
    Option (List (Bool × Row)) :=
  (U.affect defaults 0 marked s).bind fun marked =>
    if valid (marked.map Prod.snd) then some marked else none

/-- A statement that checks the rows of the table after each row. -/
def checkedStatement (defaults : Nat → Defaults) (table proposed : List Row) :
    Option (List (Bool × Row)) :=
  proposed.foldlM (U.checkedAffect valid defaults) (table.map fun t => (false, t))

/-- Insert a row if its key is new and that leaves valid rows, and count it. -/
def checkedInsert (defaults : Nat → Defaults) (acc : List Row × Nat) (s : Row) :
    Option (List Row × Nat) :=
  if acc.1.any (fun t => Conflicts U.key t s) then some acc
  else if valid (acc.1 ++ [U.insert (defaults acc.1.length) s]) then
    some (acc.1 ++ [U.insert (defaults acc.1.length) s], acc.2 + 1)
  else none

/-- Insertions of the rows whose key is new, with such checks, and their number. -/
def checkedInsertions (defaults : Nat → Defaults) (table proposed : List Row) :
    Option (List Row × Nat) :=
  proposed.foldlM (U.checkedInsert valid defaults) (table, 0)

variable {U valid} {defaults : Nat → Defaults} {proposed : List Row}

variable (valid defaults) in
theorem foldlM_checkedAffect (apart : Distinct U.key proposed) (marked : List (Bool × Row))
    (fresh : ∀ e ∈ marked, e.1 = true → ∀ s ∈ proposed, ¬ Conflicts U.key e.2 s) :
    (∃ marked', proposed.foldlM (U.checkedAffect valid defaults) marked = some marked' ∧
        marked'.map Prod.snd = U.upsertAll defaults (marked.map Prod.snd) proposed ∧
        marked'.countP Prod.fst = marked.countP Prod.fst + proposed.length ∧
        ∀ first, first <+: proposed → first ≠ [] →
          valid (U.upsertAll defaults (marked.map Prod.snd) first)) ∨
      (proposed.foldlM (U.checkedAffect valid defaults) marked = none ∧
        ∃ first, first <+: proposed ∧ first ≠ [] ∧
          ¬ valid (U.upsertAll defaults (marked.map Prod.snd) first)) := by
  induction proposed generalizing marked with
  | nil => exact .inl ⟨marked, rfl, rfl, rfl, fun first short ne => absurd (List.prefix_nil.1 short) ne⟩
  | cons s rest ih =>
    obtain ⟨first, others⟩ := List.pairwise_cons.1 apart
    obtain ⟨marked', result, written, count, marks⟩ := affect_eq defaults
      (fun e he ha => fresh e he ha s List.mem_cons_self) 0
    have step (first : List Row) : U.upsertAll defaults (marked.map Prod.snd) (s :: first) =
        U.upsertAll defaults (marked'.map Prod.snd) first := by
      rw [written]
      rfl
    have checked : U.checkedAffect valid defaults marked s =
        if valid (marked'.map Prod.snd) then some marked' else none := by
      rw [checkedAffect, result, Option.bind_some]
    rw [List.foldlM_cons, checked]
    by_cases ok : valid (marked'.map Prod.snd)
    · have fresh' : ∀ e ∈ marked', e.1 = true → ∀ s ∈ rest, ¬ Conflicts U.key e.2 s := by
        intro e he ha x hx
        rcases marks e he ha with old | new
        · exact fresh e old ha x (List.mem_cons_of_mem _ hx)
        · exact fun h => first x hx ⟨new ▸ h.1, new ▸ h.2⟩
      rw [if_pos ok]
      rcases ih others marked' fresh' with ⟨marked'', result', written', count', valids⟩ |
        ⟨refused, prior, short, -, invalid⟩
      · refine .inl ⟨marked'', result', by rw [written', step], ?_, ?_⟩
        · rw [count', count, List.length_cons]
          omega
        · exact forall_prefix_cons (by rwa [step]) fun prior short ne => by
            rw [step]
            exact valids prior short ne
      · refine .inr ⟨refused, s :: prior, List.cons_prefix_cons.2 ⟨rfl, short⟩,
          List.cons_ne_nil _ _, ?_⟩
        rwa [step]
    · rw [if_neg ok]
      refine .inr ⟨rfl, [s], List.cons_prefix_cons.2 ⟨rfl, List.nil_prefix⟩,
        List.cons_ne_nil _ _, ?_⟩
      rw [step]
      exact ok

variable (valid) in
/-- **A checked statement over rows without repeated keys** is refused exactly when some of its first rows
leave rows that are not valid; else it upserts the rows, and affects one row for each. -/
theorem checkedStatement_eq (defaults : Nat → Defaults) (table : List Row)
    (apart : Distinct U.key proposed) :
    (∃ marked, U.checkedStatement valid defaults table proposed = some marked ∧
        marked.map Prod.snd = U.upsertAll defaults table proposed ∧
        marked.countP Prod.fst = proposed.length ∧
        ∀ first, first <+: proposed → first ≠ [] → valid (U.upsertAll defaults table first)) ∨
      (U.checkedStatement valid defaults table proposed = none ∧
        ∃ first, first <+: proposed ∧ first ≠ [] ∧ ¬ valid (U.upsertAll defaults table first)) := by
  have start := foldlM_checkedAffect valid defaults apart
    (table.map fun t => (false, t)) fun e he ha => by
      obtain ⟨t, -, rfl⟩ := List.mem_map.1 he
      cases ha
  have rows : (table.map fun t => (false, t)).map Prod.snd = table := by
    rw [List.map_map]
    exact List.map_id' table
  have unmarked : (table.map fun t => (false, t)).countP Prod.fst = 0 := by
    rw [List.countP_map]
    exact List.countP_eq_zero.2 fun t _ => by simp
  rwa [rows, unmarked, Nat.zero_add] at start

variable (defaults) in
theorem foldlM_checkedInsert (idle : ∀ t s, U.update t s = t) (distinct : Distinct U.key rows)
    (apart : Distinct U.key proposed) (n : Nat) (sound : valid rows) :
    (proposed.foldlM (U.checkedInsert valid defaults) (rows, n) =
          some (U.upsertAll defaults rows proposed,
            n + proposed.countP fun s => ∀ t ∈ rows, ¬ Conflicts U.key t s) ∧
        ∀ first, first <+: proposed → first ≠ [] → valid (U.upsertAll defaults rows first)) ∨
      (proposed.foldlM (U.checkedInsert valid defaults) (rows, n) = none ∧
        ∃ first, first <+: proposed ∧ first ≠ [] ∧ ¬ valid (U.upsertAll defaults rows first)) := by
  induction proposed generalizing rows n with
  | nil => exact .inl ⟨rfl, fun first short ne => absurd (List.prefix_nil.1 short) ne⟩
  | cons s rest ih =>
    obtain ⟨first, others⟩ := List.pairwise_cons.1 apart
    have whole (first : List Row) : U.upsertAll defaults rows (s :: first) =
        U.upsertAll defaults (U.upsert defaults 0 (rows ++ []) s) first := by
      rw [List.append_nil]
      rfl
    have refused {prior : List Row} (short : prior <+: rest)
        (invalid : ¬ valid (U.upsertAll defaults rows (s :: prior))) :
        ∃ first, first <+: s :: rest ∧ first ≠ [] ∧ ¬ valid (U.upsertAll defaults rows first) :=
      ⟨s :: prior, List.cons_prefix_cons.2 ⟨rfl, short⟩, List.cons_ne_nil _ _, invalid⟩
    rw [List.foldlM_cons, checkedInsert]
    by_cases conflict : ∃ t ∈ rows, Conflicts U.key t s
    · -- the row is left out, and an update by it would change nothing
      have met : rows.any (fun t => Conflicts U.key t s) = true := by simpa using conflict
      have same : U.upsert defaults 0 (rows ++ []) s = rows := by
        rw [upsert_append_of_conflict distinct conflict, List.append_nil]
        simp only [idle, ite_self, List.map_id']
      have uncounted : ¬ ∀ t ∈ rows, ¬ Conflicts U.key t s := fun h =>
        conflict.elim fun t ht => h t ht.1 ht.2
      simp only [same] at whole
      rw [if_pos met, whole, List.countP_cons_of_neg (by simpa using uncounted)]
      rcases ih distinct others n sound with ⟨result, valids⟩ | ⟨none, prior, short, -, invalid⟩
      · refine .inl ⟨result, forall_prefix_cons ?_ fun prior short ne => ?_⟩
        · rw [whole]
          exact sound
        · rw [whole]
          exact valids prior short ne
      · exact .inr ⟨none, refused short (by rwa [whole])⟩
    · have fresh : ∀ t ∈ rows, ¬ Conflicts U.key t s := fun t ht h => conflict ⟨t, ht, h⟩
      have unmet : ¬ rows.any (fun t => Conflicts U.key t s) = true := by simpa using fresh
      have grown : U.upsert defaults 0 (rows ++ []) s =
          rows ++ [U.insert (defaults rows.length) s] := by
        rw [upsert_append_of_fresh fresh, Nat.zero_add]
        rfl
      have distinct' : Distinct U.key (rows ++ [U.insert (defaults rows.length) s]) := by
        rw [← grown, List.append_nil]
        exact distinct_upsert defaults distinct 0 s
      have count : (rest.countP fun x =>
          ∀ t ∈ rows ++ [U.insert (defaults rows.length) s], ¬ Conflicts U.key t x) =
            rest.countP fun x => ∀ t ∈ rows, ¬ Conflicts U.key t x := by
        refine List.countP_congr fun x hx => ?_
        have other : ¬ Conflicts U.key (U.insert (defaults rows.length) s) x := by
          rw [Conflicts, U.key_insert]
          exact first x hx
        simp [or_imp, forall_and, other]
      simp only [grown] at whole
      rw [if_neg unmet]
      by_cases ok : valid (rows ++ [U.insert (defaults rows.length) s])
      · rw [if_pos ok, whole, List.countP_cons_of_pos (by simpa using fresh)]
        rcases ih distinct' others (n + 1) ok with ⟨result, valids⟩ | ⟨none, prior, short, -, invalid⟩
        · refine .inl ⟨?_, forall_prefix_cons ?_ fun prior short ne => ?_⟩
          · rw [count] at result
            exact result.trans (by rw [Nat.add_assoc, Nat.add_comm 1])
          · rw [whole]
            exact ok
          · rw [whole]
            exact valids prior short ne
        · exact .inr ⟨none, refused short (by rwa [whole])⟩
      · rw [if_neg ok]
        refine .inr ⟨rfl, refused List.nil_prefix ?_⟩
        rw [whole]
        exact ok

variable (valid) in
/-- Where an update changes nothing, the insertions of the rows whose key is new upsert the rows. -/
theorem checkedInsertions_eq (defaults : Nat → Defaults) (idle : ∀ t s, U.update t s = t)
    (distinct : Distinct U.key table) (apart : Distinct U.key proposed) (sound : valid table) :
    (U.checkedInsertions valid defaults table proposed =
          some (U.upsertAll defaults table proposed,
            proposed.countP fun s => ∀ t ∈ table, ¬ Conflicts U.key t s) ∧
        ∀ first, first <+: proposed → first ≠ [] → valid (U.upsertAll defaults table first)) ∨
      (U.checkedInsertions valid defaults table proposed = none ∧
        ∃ first, first <+: proposed ∧ first ≠ [] ∧ ¬ valid (U.upsertAll defaults table first)) := by
  have start := foldlM_checkedInsert defaults idle distinct apart 0 sound
  rwa [Nat.zero_add] at start

end Checked

end Upserting
