import Mathlib

/-!
# Upserts into a keyed table

A row is upserted into a table by an update of the row that has its key, or by an insertion; rows
without a key are always inserted.  A statement that upserts several rows refuses to affect a row twice.
The result of upserting rows one at a time depends only on the last row of each key, so a statement over
these last rows, in any order, has the same result.
-/

/-- Rows that can be upserted: how a proposed row updates a row and is inserted, and what is seen of a
row. -/
structure Upserting (Row Defaults Key View : Type) where
  key : Row → Option Key
  update : Row → Row → Row
  insert : Defaults → Row → Row
  view : Row → View
  key_update : ∀ t s, key (update t s) = key t
  key_insert : ∀ d s, key (insert d s) = key s
  update_update : ∀ t a b, update (update t a) b = update t b
  view_update : ∀ t s, key t ≠ none → key t = key s → view (update t s) = view s
  view_insert : ∀ d s, view (insert d s) = view s

namespace Upserting

section Keys

variable {α κ : Type}

/-- Two rows with one key. -/
def Conflicts (key : α → Option κ) (a b : α) : Prop := key a ≠ none ∧ key a = key b

instance [DecidableEq κ] (key : α → Option κ) (a b : α) : Decidable (Conflicts key a b) :=
  inferInstanceAs (Decidable (_ ∧ _))

/-- No two rows have one key. -/
def Distinct (key : α → Option κ) (rows : List α) : Prop :=
  rows.Pairwise fun a b => ¬ Conflicts key a b

theorem Conflicts.symm {key : α → Option κ} {a b : α} (h : Conflicts key a b) : Conflicts key b a :=
  ⟨h.2 ▸ h.1, h.2.symm⟩

theorem Conflicts.trans {key : α → Option κ} {a b c : α} (h : Conflicts key a b)
    (h' : Conflicts key b c) : Conflicts key a c :=
  ⟨h.1, h.2.trans h'.2⟩

instance (key : α → Option κ) : Std.Symm fun a b => ¬ Conflicts key a b :=
  ⟨fun _ _ h h' => h h'.symm⟩

theorem Distinct.perm {key : α → Option κ} {xs ys : List α} (h : Distinct key xs) (perm : xs.Perm ys) :
    Distinct key ys :=
  perm.pairwise h fun h h' => h h'.symm

variable [DecidableEq κ]

/-- The rows whose key does not come again. -/
def survivors (key : α → Option κ) : List α → List α
  | [] => []
  | r :: rest =>
    if rest.any (fun x => Conflicts key r x) then survivors key rest else r :: survivors key rest

variable {key : α → Option κ}

theorem survivors_sublist (rows : List α) : (survivors key rows).Sublist rows := by
  induction rows with
  | nil => exact List.Sublist.refl _
  | cons r rest ih =>
    rw [survivors]
    split_ifs
    · exact ih.cons r
    · exact ih.cons_cons r

theorem distinct_survivors (rows : List α) : Distinct key (survivors key rows) := by
  induction rows with
  | nil => exact List.Pairwise.nil
  | cons r rest ih =>
    rw [survivors]
    split_ifs with later
    · exact ih
    · refine List.Pairwise.cons (fun x hx conflict => later ?_) ih
      exact List.any_eq_true.2 ⟨x, (survivors_sublist rest).subset hx, decide_eq_true conflict⟩

/-- Of rows in the order of their numbers, those with the last number of their key survive. -/
theorem mem_survivors_iff {rows : List α} (number : α → Nat)
    (increasing : rows.Pairwise fun a b => number a < number b) {r : α} :
    r ∈ survivors key rows ↔ r ∈ rows ∧ ∀ x ∈ rows, Conflicts key r x → number x ≤ number r := by
  induction rows with
  | nil => simp [survivors]
  | cons y rest ih =>
    obtain ⟨first, increasing⟩ := List.pairwise_cons.1 increasing
    rw [survivors]
    split_ifs with later
    · obtain ⟨z, hz, conflict⟩ := List.any_eq_true.1 later
      rw [ih increasing]
      constructor
      · rintro ⟨mem, last⟩
        refine ⟨List.mem_cons_of_mem _ mem, fun x hx h => ?_⟩
        rcases List.mem_cons.1 hx with rfl | hx
        · exact (first r mem).le
        · exact last x hx h
      · rintro ⟨mem, last⟩
        rcases List.mem_cons.1 mem with rfl | mem
        · have above := first z hz
          have below := last z (List.mem_cons_of_mem _ hz) (of_decide_eq_true conflict)
          omega
        · exact ⟨mem, fun x hx => last x (List.mem_cons_of_mem _ hx)⟩
    · rw [List.mem_cons, ih increasing]
      constructor
      · rintro (rfl | ⟨mem, last⟩)
        · refine ⟨List.mem_cons_self, fun x hx h => ?_⟩
          rcases List.mem_cons.1 hx with rfl | hx
          · exact le_refl _
          · exact absurd (List.any_eq_true.2 ⟨x, hx, decide_eq_true h⟩) later
        · refine ⟨List.mem_cons_of_mem _ mem, fun x hx h => ?_⟩
          rcases List.mem_cons.1 hx with rfl | hx
          · exact (first r mem).le
          · exact last x hx h
      · rintro ⟨mem, last⟩
        rcases List.mem_cons.1 mem with rfl | mem
        · exact .inl rfl
        · exact .inr ⟨mem, fun x hx => last x (List.mem_cons_of_mem _ hx)⟩

/-- Distinct rows all survive. -/
theorem survivors_of_distinct {rows : List α} (distinct : Distinct key rows) :
    survivors key rows = rows := by
  induction rows with
  | nil => rfl
  | cons r rest ih =>
    obtain ⟨first, others⟩ := List.pairwise_cons.1 distinct
    rw [survivors, if_neg, ih others]
    intro later
    obtain ⟨x, hx, conflict⟩ := List.any_eq_true.1 later
    exact first x hx (of_decide_eq_true conflict)

/-- One more row replaces the survivor of its key. -/
theorem survivors_append_singleton (rows : List α) (s : α) :
    survivors key (rows ++ [s]) =
      (survivors key rows).filter (fun r => ¬ Conflicts key r s) ++ [s] := by
  induction rows with
  | nil => simp [survivors]
  | cons r rest ih =>
    rw [List.cons_append, survivors, survivors, List.any_append, ih]
    by_cases last : Conflicts key r s
    · have gone : ([s].any fun x => Conflicts key r x) = true := by simpa using last
      rw [gone, Bool.or_true, if_pos rfl]
      split_ifs
      · rfl
      · rw [List.filter_cons_of_neg (by simpa using last)]
    · have kept : ([s].any fun x => Conflicts key r x) = false := by simpa using last
      rw [kept, Bool.or_false]
      split_ifs
      · rfl
      · rw [List.filter_cons_of_pos (by simpa using last), List.cons_append]

theorem survivors_map {β : Type} (f : β → α) (rows : List β) :
    survivors key (rows.map f) = (survivors (fun r => key (f r)) rows).map f := by
  induction rows with
  | nil => rfl
  | cons r rest ih =>
    rw [List.map_cons, survivors, survivors, List.any_map, ih]
    simp only [apply_ite (List.map f), List.map_cons]
    rfl

/-- Among distinct rows the one with a given key does not depend on the order. -/
theorem find?_perm {xs ys : List α} (distinct : Distinct key xs) (perm : xs.Perm ys) (t : α) :
    xs.find? (fun s => Conflicts key t s) = ys.find? (fun s => Conflicts key t s) := by
  cases hx : xs.find? (fun s => Conflicts key t s) with
  | none =>
    rw [List.find?_eq_none] at hx
    exact (List.find?_eq_none.2 fun s hs => hx s (perm.mem_iff.2 hs)).symm
  | some a =>
    have ha := List.mem_of_find?_eq_some hx
    have meets : Conflicts key t a := by simpa using List.find?_some hx
    obtain ⟨b, hb⟩ : ∃ b, ys.find? (fun s => Conflicts key t s) = some b :=
      Option.isSome_iff_exists.1 (List.find?_isSome.2 ⟨a, perm.mem_iff.1 ha, decide_eq_true meets⟩)
    have meets' : Conflicts key t b := by simpa using List.find?_some hb
    have same : a = b := by
      by_contra ne
      exact List.Pairwise.forall distinct ha (perm.mem_iff.2 (List.mem_of_find?_eq_some hb)) ne
        (meets.symm.trans meets')
    rw [hb, same]

end Keys

variable {Row Defaults Key View : Type} (U : Upserting Row Defaults Key View)

/-! ## Tags -/

/-- What the result of upserts depends on. -/
def tag (r : Row) : Option Key × View := (U.key r, U.view r)

section Tags

variable {U}

theorem tag_update {t s : Row} (h : Conflicts U.key t s) : U.tag (U.update t s) = U.tag s := by
  rw [tag, tag, U.key_update, U.view_update t s h.1 h.2, h.2]

theorem tag_insert (d : Defaults) (s : Row) : U.tag (U.insert d s) = U.tag s := by
  rw [tag, tag, U.key_insert, U.view_insert]

theorem tags_filter [DecidableEq Key] {xs ys : List Row}
    (perm : (xs.map U.tag).Perm (ys.map U.tag)) (s : Row) :
    ((xs.filter fun r => ¬ Conflicts U.key r s).map U.tag).Perm
      ((ys.filter fun r => ¬ Conflicts U.key r s).map U.tag) := by
  have tags (zs : List Row) : (zs.filter fun r => ¬ Conflicts U.key r s).map U.tag =
      (zs.map U.tag).filter fun x => ¬ (x.1 ≠ none ∧ x.1 = U.key s) := by
    rw [List.filter_map]
    rfl
  rw [tags, tags]
  exact perm.filter _

theorem distinct_of_tags {xs ys : List Row} (perm : (xs.map U.tag).Perm (ys.map U.tag))
    (distinct : Distinct U.key ys) : Distinct U.key xs := by
  have tags (zs : List Row) : Distinct U.key zs ↔
      (zs.map U.tag).Pairwise fun a b => ¬ Conflicts Prod.fst a b := by
    rw [List.pairwise_map]
    rfl
  rw [tags] at distinct ⊢
  exact perm.symm.pairwise distinct fun h h' => h h'.symm

end Tags

/-! ## Operations -/

variable [DecidableEq Key]

/-- Upsert a row into the rows of a table from a position on. -/
def upsert (defaults : Nat → Defaults) : Nat → List Row → Row → List Row
  | k, [], s => [U.insert (defaults k) s]
  | k, t :: rest, s =>
    if Conflicts U.key t s then U.update t s :: rest else t :: upsert defaults (k + 1) rest s

/-- Upsert rows one at a time. -/
def upsertAll (defaults : Nat → Defaults) (table proposed : List Row) : List Row :=
  proposed.foldl (U.upsert defaults 0) table

/-- Upsert a row in a statement: a row that the statement has affected is not affected again. -/
def affect (defaults : Nat → Defaults) : Nat → List (Bool × Row) → Row → Option (List (Bool × Row))
  | k, [], s => some [(true, U.insert (defaults k) s)]
  | k, (affected, t) :: rest, s =>
    if Conflicts U.key t s then
      if affected then none else some ((true, U.update t s) :: rest)
    else (affect defaults (k + 1) rest s).map ((affected, t) :: ·)

/-- The rows of the table after a statement over these rows, with a mark on each row that was
affected. -/
def statement (defaults : Nat → Defaults) (table proposed : List Row) :
    Option (List (Bool × Row)) :=
  proposed.foldlM (U.affect defaults 0) (table.map fun t => (false, t))

/-- A row of the table, after the update by the row of its key, if there is one. -/
def updated (rows : List Row) (t : Row) : Row :=
  match rows.find? (fun s => Conflicts U.key t s) with
  | some s => U.update t s
  | none => t

/-! ## One row -/

variable {U}

theorem upsert_append_of_fresh {defaults : Nat → Defaults} {table : List Row} {s : Row}
    (fresh : ∀ t ∈ table, ¬ Conflicts U.key t s) (k : Nat) (tail : List Row) :
    U.upsert defaults k (table ++ tail) s = table ++ U.upsert defaults (k + table.length) tail s := by
  induction table generalizing k with
  | nil => rfl
  | cons t rest ih =>
    rw [List.cons_append, upsert, if_neg (fresh t List.mem_cons_self),
      ih (fun x hx => fresh x (List.mem_cons_of_mem _ hx)), List.length_cons, List.cons_append,
      Nat.add_assoc, Nat.add_comm 1]

/-- A row of the table that conflicts is updated; there is only one. -/
theorem upsert_append_of_conflict {defaults : Nat → Defaults} {table : List Row} {s : Row}
    (distinct : Distinct U.key table) (conflict : ∃ t ∈ table, Conflicts U.key t s) (k : Nat)
    (tail : List Row) :
    U.upsert defaults k (table ++ tail) s =
      table.map (fun t => if Conflicts U.key t s then U.update t s else t) ++ tail := by
  induction table generalizing k with
  | nil => obtain ⟨t, ht, -⟩ := conflict; cases ht
  | cons t rest ih =>
    obtain ⟨first, others⟩ := List.pairwise_cons.1 distinct
    rw [List.cons_append, upsert, List.map_cons, List.cons_append]
    by_cases h : Conflicts U.key t s
    · have unchanged : rest.map (fun t => if Conflicts U.key t s then U.update t s else t) = rest :=
        (List.map_congr_left fun x hx => if_neg fun hxs => first x hx (h.trans hxs.symm)).trans
          (List.map_id' rest)
      rw [if_pos h, if_pos h, unchanged]
    · rw [if_neg h, if_neg h, ih others]
      obtain ⟨x, hx, hxs⟩ := conflict
      rcases List.mem_cons.1 hx with rfl | hx
      · exact absurd hxs h
      · exact ⟨x, hx, hxs⟩

/-- A row takes the place of the row of its key. -/
theorem tags_upsert (defaults : Nat → Defaults) {table : List Row} (distinct : Distinct U.key table)
    (k : Nat) (s : Row) :
    ((U.upsert defaults k table s).map U.tag).Perm
      ((table.filter (fun t => ¬ Conflicts U.key t s) ++ [s]).map U.tag) := by
  induction table generalizing k with
  | nil =>
    rw [upsert, List.map_singleton, tag_insert]
    exact List.Perm.refl _
  | cons t rest ih =>
    obtain ⟨first, others⟩ := List.pairwise_cons.1 distinct
    rw [upsert]
    by_cases h : Conflicts U.key t s
    · have all : rest.filter (fun t => ¬ Conflicts U.key t s) = rest :=
        List.filter_eq_self.2 fun x hx => decide_eq_true fun hxs => first x hx (h.trans hxs.symm)
      rw [if_pos h, List.filter_cons_of_neg (by simpa using h), all, List.map_cons, tag_update h,
        List.map_append, List.map_singleton]
      exact (List.perm_append_singleton _ _).symm
    · rw [if_neg h, List.filter_cons_of_pos (by simpa using h), List.map_cons, List.cons_append,
        List.map_cons]
      exact (ih others (k + 1)).cons _

/-! ## All rows -/

theorem key_updated (rows : List Row) (t : Row) : U.key (U.updated rows t) = U.key t := by
  unfold updated
  split
  · exact U.key_update _ _
  · rfl

theorem conflicts_updated {rows : List Row} {t x : Row} :
    Conflicts U.key (U.updated rows t) x ↔ Conflicts U.key t x := by
  rw [Conflicts, Conflicts, key_updated]

/-- One more row updates the rows that it conflicts with. -/
theorem updated_append_singleton (rows : List Row) (s t : Row) :
    U.updated (survivors U.key (rows ++ [s])) t =
      if Conflicts U.key t s then U.update (U.updated (survivors U.key rows) t) s
      else U.updated (survivors U.key rows) t := by
  rw [survivors_append_singleton]
  by_cases h : Conflicts U.key t s
  · have gone : ((survivors U.key rows).filter fun r => ¬ Conflicts U.key r s).find?
        (fun x => Conflicts U.key t x) = none := by
      rw [List.find?_eq_none]
      intro x hx
      have apart : ¬ Conflicts U.key x s := by simpa using (List.mem_filter.1 hx).2
      simpa using fun htx => apart (htx.symm.trans h)
    have found : ((survivors U.key rows).filter (fun r => ¬ Conflicts U.key r s) ++ [s]).find?
        (fun x => Conflicts U.key t x) = some s := by
      rw [List.find?_append, gone, Option.none_or, List.find?_singleton, if_pos (by simpa using h)]
    rw [if_pos h, updated, found]
    simp only
    rw [updated]
    split
    · exact (U.update_update _ _ _).symm
    · rfl
  · have same : ((survivors U.key rows).filter (fun r => ¬ Conflicts U.key r s) ++ [s]).find?
        (fun x => Conflicts U.key t x) =
          (survivors U.key rows).find? (fun x => Conflicts U.key t x) := by
      rw [List.find?_append, List.find?_singleton, if_neg (by simpa using h), Option.or_none,
        List.find?_filter]
      congr 1
      funext x
      by_cases htx : Conflicts U.key t x
      · have apart : ¬ Conflicts U.key x s := fun hxs => h (htx.trans hxs)
        simp [htx, apart]
      · simp [htx]
    rw [if_neg h, updated, same]
    rfl

/-- Upserts one at a time update the rows of the table by the last row of their key, and insert the last
row of every other key. -/
theorem upsertAll_eq (defaults : Nat → Defaults) {table : List Row} (distinct : Distinct U.key table)
    (rows : List Row) :
    ∃ tail, U.upsertAll defaults table rows =
        table.map (U.updated (survivors U.key rows)) ++ tail ∧
      (tail.map U.tag).Perm (((survivors U.key rows).filter
        fun s => ∀ t ∈ table, ¬ Conflicts U.key t s).map U.tag) := by
  induction rows using List.reverseRecOn with
  | nil =>
    refine ⟨[], ?_, List.Perm.refl _⟩
    rw [List.append_nil]
    exact (List.map_id'' (fun _ => rfl) table).symm
  | append_singleton rest s ih =>
    obtain ⟨tail, result, tags⟩ := ih
    have head : Distinct U.key (table.map (U.updated (survivors U.key rest))) :=
      List.pairwise_map.2 (distinct.imp fun {a b} h h' =>
        h ⟨key_updated (U := U) _ a ▸ h'.1, by simpa only [key_updated] using h'.2⟩)
    have step : U.upsertAll defaults table (rest ++ [s]) =
        U.upsert defaults 0 (table.map (U.updated (survivors U.key rest)) ++ tail) s := by
      rw [upsertAll, List.foldl_append, List.foldl_cons, List.foldl_nil, ← result]
      rfl
    rw [step]
    by_cases conflict : ∃ t ∈ table, Conflicts U.key t s
    · obtain ⟨t, ht, hts⟩ := conflict
      refine ⟨tail, ?_, ?_⟩
      · rw [upsert_append_of_conflict head ⟨_, List.mem_map_of_mem ht, conflicts_updated.2 hts⟩,
          List.map_map]
        congr 1
        refine List.map_congr_left fun x _ => ?_
        rw [updated_append_singleton, Function.comp_apply]
        simp only [conflicts_updated]
      · refine tags.trans (List.Perm.of_eq (congrArg _ ?_))
        rw [survivors_append_singleton, List.filter_append, List.filter_filter]
        have last : [s].filter (fun s => ∀ t ∈ table, ¬ Conflicts U.key t s) = [] :=
          List.filter_cons_of_neg (by simpa using ⟨t, ht, hts⟩)
        rw [last, List.append_nil]
        refine List.filter_congr fun x _ => ?_
        by_cases hx : ∀ t ∈ table, ¬ Conflicts U.key t x
        · have apart : ¬ Conflicts U.key x s := fun hxs => hx t ht (hts.trans hxs.symm)
          simp [apart]
        · simp [hx]
    · have fresh : ∀ t ∈ table, ¬ Conflicts U.key t s := fun t ht h => conflict ⟨t, ht, h⟩
      have fresh' : ∀ t ∈ table.map (U.updated (survivors U.key rest)), ¬ Conflicts U.key t s := by
        intro t ht
        obtain ⟨x, hx, rfl⟩ := List.mem_map.1 ht
        exact fun h => fresh x hx (conflicts_updated.1 h)
      refine ⟨U.upsert defaults (0 + (table.map (U.updated (survivors U.key rest))).length) tail s,
        ?_, ?_⟩
      · rw [upsert_append_of_fresh fresh']
        congr 1
        refine List.map_congr_left fun x hx => ?_
        rw [updated_append_singleton, if_neg (fresh x hx)]
      · have replaced := tags_upsert defaults (distinct_of_tags tags
          ((distinct_survivors rest).filter _))
          (0 + (table.map (U.updated (survivors U.key rest))).length) s
        refine replaced.trans ?_
        have last : [s].filter (fun s => ∀ t ∈ table, ¬ Conflicts U.key t s) = [s] :=
          List.filter_cons_of_pos (by simpa using fresh)
        rw [survivors_append_singleton, List.filter_append, last, List.filter_filter, List.map_append,
          List.map_append]
        refine ((tags_filter tags s).trans (List.Perm.of_eq ?_)).append_right _
        rw [List.filter_filter]
        refine congrArg _ (List.filter_congr fun x _ => ?_)
        rw [Bool.and_comm]

/-- The rows of a statement without repeated keys can take the place of the rows whose survivors they
are. -/
theorem upsertAll_survivors (defaults defaults' : Nat → Defaults) {table rows proposed : List Row}
    (distinct : Distinct U.key table) (perm : proposed.Perm (survivors U.key rows)) :
    (U.upsertAll defaults table proposed).take table.length =
        (U.upsertAll defaults' table rows).take table.length ∧
      ((U.upsertAll defaults table proposed).map U.tag).Perm
        ((U.upsertAll defaults' table rows).map U.tag) := by
  have apart : Distinct U.key proposed :=
    (distinct_survivors rows).perm perm.symm
  obtain ⟨tail, result, tags⟩ := upsertAll_eq defaults distinct proposed
  obtain ⟨tail', result', tags'⟩ := upsertAll_eq defaults' distinct rows
  rw [survivors_of_distinct apart] at result tags
  have head : table.map (U.updated proposed) = table.map (U.updated (survivors U.key rows)) :=
    List.map_congr_left fun t _ => by rw [updated, updated, find?_perm apart perm]
  rw [result, result', head]
  constructor
  · rw [List.take_left' (List.length_map _), List.take_left' (List.length_map _)]
  · rw [List.map_append, List.map_append]
    exact (tags.trans (((perm.filter _).map _).trans tags'.symm)).append_left _

/-- Upserts change the rows of the table by updates only. -/
theorem take_upsertAll (defaults : Nat → Defaults) {table : List Row} (distinct : Distinct U.key table)
    (rows : List Row) :
    (U.upsertAll defaults table rows).take table.length =
      table.map (U.updated (survivors U.key rows)) := by
  obtain ⟨tail, result, -⟩ := upsertAll_eq defaults distinct rows
  rw [result, List.take_left' (List.length_map _)]

/-! ## Statements -/

/-- A row that meets no row affected before is upserted, and affects one row. -/
theorem affect_eq (defaults : Nat → Defaults) {marked : List (Bool × Row)} {s : Row}
    (fresh : ∀ e ∈ marked, e.1 = true → ¬ Conflicts U.key e.2 s) (k : Nat) :
    ∃ marked', U.affect defaults k marked s = some marked' ∧
      marked'.map Prod.snd = U.upsert defaults k (marked.map Prod.snd) s ∧
      marked'.countP Prod.fst = marked.countP Prod.fst + 1 ∧
      ∀ e ∈ marked', e.1 = true → e ∈ marked ∨ U.key e.2 = U.key s := by
  induction marked generalizing k with
  | nil =>
    refine ⟨_, rfl, rfl, rfl, fun e he _ => .inr ?_⟩
    rw [List.mem_singleton.1 he]
    exact U.key_insert _ s
  | cons e rest ih =>
    obtain ⟨affected, t⟩ := e
    rw [affect, List.map_cons, upsert]
    by_cases h : Conflicts U.key t s
    · have untouched : affected = false :=
        Bool.eq_false_iff.2 fun ha => fresh _ List.mem_cons_self ha h
      rw [if_pos h, if_pos h, untouched]
      refine ⟨_, rfl, rfl, by simp, fun e he _ => ?_⟩
      rcases List.mem_cons.1 he with rfl | he
      · exact .inr ((U.key_update t s).trans h.2)
      · exact .inl (List.mem_cons_of_mem _ he)
    · obtain ⟨marked', result, rows, count, marks⟩ :=
        ih (fun e he => fresh e (List.mem_cons_of_mem _ he)) (k + 1)
      rw [if_neg h, if_neg h, result]
      refine ⟨_, rfl, by rw [List.map_cons, rows], ?_, fun e he ha => ?_⟩
      · rw [List.countP_cons, List.countP_cons, count]
        omega
      · rcases List.mem_cons.1 he with rfl | he
        · exact .inl List.mem_cons_self
        · exact (marks e he ha).imp_left (List.mem_cons_of_mem _)

/-- A statement over rows without repeated keys is not refused, and affects one row for each. -/
theorem statement_eq (defaults : Nat → Defaults) (table : List Row) {proposed : List Row}
    (distinct : Distinct U.key proposed) :
    ∃ marked, U.statement defaults table proposed = some marked ∧
      marked.map Prod.snd = U.upsertAll defaults table proposed ∧
      marked.countP Prod.fst = proposed.length := by
  have go : ∀ marked : List (Bool × Row),
      (∀ e ∈ marked, e.1 = true → ∀ s ∈ proposed, ¬ Conflicts U.key e.2 s) →
      ∃ marked', proposed.foldlM (U.affect defaults 0) marked = some marked' ∧
        marked'.map Prod.snd = proposed.foldl (U.upsert defaults 0) (marked.map Prod.snd) ∧
        marked'.countP Prod.fst = marked.countP Prod.fst + proposed.length := by
    induction proposed with
    | nil => exact fun marked _ => ⟨marked, rfl, rfl, rfl⟩
    | cons s rest ih =>
      obtain ⟨first, others⟩ := List.pairwise_cons.1 distinct
      intro marked fresh
      obtain ⟨marked', result, rows, count, marks⟩ := affect_eq defaults
        (fun e he ha => fresh e he ha s List.mem_cons_self) 0
      obtain ⟨marked'', result', rows', count'⟩ := ih others marked' fun e he ha x hx => by
        rcases marks e he ha with old | new
        · exact fresh e old ha x (List.mem_cons_of_mem _ hx)
        · exact fun h => first x hx ⟨new ▸ h.1, new ▸ h.2⟩
      refine ⟨marked'', ?_, ?_, ?_⟩
      · rw [List.foldlM_cons, result]
        exact result'
      · rw [rows', rows, List.foldl_cons]
      · rw [count', count, List.length_cons]
        omega
  obtain ⟨marked, result, rows, count⟩ := go (table.map fun t => (false, t)) fun e he ha => by
    obtain ⟨t, -, rfl⟩ := List.mem_map.1 he
    cases ha
  refine ⟨marked, result, ?_, ?_⟩
  · rw [rows, List.map_map]
    exact congrArg (fun rows => proposed.foldl (U.upsert defaults 0) rows) (List.map_id' table)
  · rw [count, List.countP_map]
    have none : table.countP (Prod.fst ∘ fun t => (false, t)) = 0 := List.countP_eq_zero.2 nofun
    rw [none, Nat.zero_add]

end Upserting
