import DataMover.Emulator.Tables

/-!
# The upsert of the emulator

The emulator indexes the rows of a table by the columns of the key and puts each row of the source in the
place of the row of its key, or at the end.  When no key comes twice, neither in the table nor in the
source, the result is an upsert of the rows of the source that replaces whole rows.
-/

namespace DataMover.Emulator

open Upserting (Conflicts Distinct left)

variable {Value Dtype : Type}

/-! ## Keys -/

section Keys

variable {load : UpsertLoad Value Value}

theorem key_ne_none {row : Row Value} :
    load.key row ≠ none ↔ Row.Complete load.policy.conflictColumns row := by
  have nullable : load.nullable row = true ↔ ¬ Row.Complete load.policy.conflictColumns row := by
    simp [UpsertLoad.nullable, Row.Complete]
  rw [UpsertLoad.key]
  by_cases h : load.nullable row = true
  · simp [h, nullable.1 h]
  · simp [h, not_not.1 (mt nullable.2 h)]

/-- Two rows conflict when they share the columns of the key. -/
theorem conflicts_iff (literal : load.keyValue = id) {a b : Row Value} :
    Conflicts load.key a b ↔ Row.Shares load.policy.conflictColumns a b := by
  rw [Conflicts, key_ne_none, Row.Shares]
  refine and_congr_right fun whole => ⟨fun same c hc => ?_, UpsertLoad.key_congr⟩
  have same := UpsertLoad.map_keyValue_of_key_eq (key_ne_none.2 whole) same hc
  rwa [literal, Option.map_id_fun, id, id] at same

theorem all_isSome_map {columns : List String} {row : Row Value} :
    (columns.map row).all Option.isSome = true ↔ Row.Complete columns row := by
  simp [Row.Complete, Option.isSome_iff_ne_none]

end Keys

/-! ## Replacements -/

/-- The emulator's way to upsert: a row takes the place of the row of its key. -/
def replacing (load : UpsertLoad Value Value) (literal : load.keyValue = id) :
    Upserting (Row Value) Unit (List Value) (Row Value) where
  key := load.key
  update t s := fun c => if c ∈ load.policy.conflictColumns then t c else s c
  insert _ s := s
  view := id
  key_update _ _ := UpsertLoad.key_congr fun _ hc => if_pos hc
  key_insert _ _ := rfl
  update_update t a b := by
    funext c
    by_cases hc : c ∈ load.policy.conflictColumns
    · simp only [if_pos hc]
    · simp only [if_neg hc]
  view_update t s present same := by
    have shares := (conflicts_iff literal).1 ⟨present, same⟩
    funext c
    by_cases hc : c ∈ load.policy.conflictColumns
    · exact (if_pos hc).trans (shares.2 c hc)
    · exact if_neg hc
  view_insert _ _ := rfl

variable [DecidableEq Value] {load : UpsertLoad Value Value} {literal : load.keyValue = id}
  {rows : List (Row Value)}

/-- Whatever it meets, a row is written as it is. -/
theorem written_replacing (distinct : Distinct load.key rows) (s : Row Value) :
    (replacing load literal).written () rows s = s := by
  by_cases conflict : ∃ t ∈ rows, Conflicts load.key t s
  · obtain ⟨t, mem, conflict⟩ := conflict
    have written : (replacing load literal).written () rows s =
        (replacing load literal).update t s := Upserting.written_of_conflict distinct mem conflict
    exact written.trans ((replacing load literal).view_update t s conflict.1 conflict.2)
  · exact Upserting.written_of_fresh fun t mem h => conflict ⟨t, mem, h⟩

/-! ## The index -/

/-- The index holds the position of the row of each whole key. -/
def Indexed (conflict : List String) (rows : List (Row Value))
    (index : Dict (List (Option Value)) Nat) : Prop :=
  ∀ key : List (Option Value), key.all Option.isSome = true → ∀ position,
    index.get key = some position ↔ ∃ row, rows[position]? = some row ∧ conflict.map row = key

theorem indexed_indexOf {conflict : List String}
    (apart : rows.Pairwise fun a b => ¬ Row.Shares conflict a b) :
    Indexed conflict rows (indexOf conflict rows) := by
  have indexed : rows.zipIdx.Pairwise fun a b => ¬ Row.Shares conflict a.1 b.1 := by
    rwa [← List.zipIdx_map_fst 0 rows, List.pairwise_map] at apart
  have distinct : (((rows.zipIdx.filter fun e => (conflict.map e.1).all Option.isSome).map
      fun e => (conflict.map e.1, e.2)).map Prod.fst).Nodup := by
    rw [List.map_map, List.Nodup, List.pairwise_map]
    refine List.Pairwise.imp_of_mem (fun {a b} ha _ h same => h ?_) (indexed.filter _)
    exact Row.shares_iff_map.2 ⟨all_isSome_map.1 (List.mem_filter.1 ha).2, same⟩
  intro key whole position
  have items : indexOf conflict rows = (rows.zipIdx.filter
      fun e => (conflict.map e.1).all Option.isSome).map fun e => (conflict.map e.1, e.2) :=
    Dict.ofItems_eq distinct
  rw [items]
  constructor
  · intro found
    obtain ⟨⟨row, i⟩, mem, same⟩ := List.mem_map.1 (Dict.mem_of_get found)
    cases same
    exact ⟨row, List.mem_zipIdx_iff_getElem?.1 (List.mem_filter.1 mem).1, rfl⟩
  · rintro ⟨row, here, rfl⟩
    exact Dict.get_of_mem distinct (List.mem_map.2 ⟨(row, position),
      List.mem_filter.2 ⟨List.mem_zipIdx_iff_getElem?.2 here, whole⟩, rfl⟩)

/-- The position of the row of a key, when there is one. -/
theorem Indexed.get_eq_none {conflict : List String} {index : Dict (List (Option Value)) Nat}
    (indexed : Indexed conflict rows index) {s : Row Value} (whole : Row.Complete conflict s) :
    index.get (conflict.map s) = none ↔ ∀ t ∈ rows, ¬ Row.Shares conflict t s := by
  rw [Option.eq_none_iff_forall_ne_some]
  constructor
  · intro none t mem shares
    obtain ⟨i, hi, rfl⟩ := List.getElem_of_mem mem
    exact none i ((indexed _ (all_isSome_map.2 whole) i).2
      ⟨_, List.getElem?_eq_getElem hi, (Row.shares_iff_map.1 shares).2⟩)
  · intro fresh position found
    obtain ⟨t, here, same⟩ := (indexed _ (all_isSome_map.2 whole) position).1 found
    have shares := Row.shares_iff_map.2 ⟨whole, same.symm⟩
    exact fresh t (List.mem_of_getElem? here) shares.symm

theorem Indexed.append {conflict : List String} {index : Dict (List (Option Value)) Nat}
    (indexed : Indexed conflict rows index) {s : Row Value}
    (fresh : ∀ t ∈ rows, ¬ Row.Shares conflict t s) :
    Indexed conflict (rows ++ [s]) (index.set (conflict.map s) rows.length) := by
  intro key whole position
  rw [Dict.get_set]
  by_cases same : key = conflict.map s
  · subst same
    rw [if_pos rfl, Option.some.injEq]
    constructor
    · rintro rfl
      exact ⟨s, by simp, rfl⟩
    · rintro ⟨row, here, same⟩
      rw [List.getElem?_append] at here
      split_ifs at here with before
      · have shares := Row.shares_iff_map.2 ⟨all_isSome_map.1 whole, same.symm⟩
        exact absurd shares.symm (fresh row (List.mem_of_getElem? here))
      · obtain ⟨at_, -⟩ := List.getElem?_eq_some_iff.1 here
        rw [List.length_singleton] at at_
        omega
  · rw [if_neg same, indexed key whole]
    refine exists_congr fun row => and_congr_left fun keyed => ?_
    rw [List.getElem?_append]
    split_ifs with before
    · rfl
    · have outside : rows[position]? = none := List.getElem?_eq_none (by omega)
      rw [outside]
      constructor
      · intro h
        cases h
      · intro h
        have last := List.mem_singleton.1 (List.mem_of_getElem? h)
        exact absurd (last ▸ keyed).symm same

theorem Indexed.modify {conflict : List String} {index : Dict (List (Option Value)) Nat}
    (indexed : Indexed conflict rows index) {s t : Row Value} {position : Nat}
    (here : rows[position]? = some t) (shares : Row.Shares conflict t s) :
    Indexed conflict (rows.modify position fun _ => s) index := by
  intro key whole i
  rw [indexed key whole, List.getElem?_modify]
  by_cases same : position = i
  · subst same
    rw [here]
    simp [(Row.shares_iff_map.1 shares).2]
  · simp [same]

/-! ## The loop -/

/-- A row that shares its key with the row at a position takes its place. -/
theorem upsert_modify (distinct : Distinct load.key rows) {s t : Row Value} {position : Nat}
    (here : rows[position]? = some t) (conflict : Conflicts load.key t s) :
    (replacing load literal).upsert (fun _ => ()) 0 rows s = rows.modify position fun _ => s := by
  have met : ∃ t ∈ rows, Conflicts (replacing load literal).key t s :=
    ⟨t, List.mem_of_getElem? here, conflict⟩
  have replaced : (replacing load literal).upsert (fun _ => ()) 0 (rows ++ []) s =
      rows.map (fun t => if Conflicts (replacing load literal).key t s then
        (replacing load literal).update t s else t) ++ [] :=
    Upserting.upsert_append_of_conflict distinct met 0 []
  rw [List.append_nil, List.append_nil] at replaced
  rw [replaced]
  refine List.ext_getElem (by simp) fun i hi hi' => ?_
  rw [List.getElem_map, List.getElem_modify]
  rw [List.length_map] at hi
  obtain ⟨hp, at_⟩ := List.getElem?_eq_some_iff.1 here
  by_cases same : position = i
  · subst same
    rw [if_pos rfl, if_pos (at_ ▸ conflict), at_]
    exact (replacing load literal).view_update t s conflict.1 conflict.2
  · have other : ¬ Conflicts load.key rows[i] s := by
      intro h
      have both := h.trans conflict.symm
      rw [← at_] at both
      rcases Nat.lt_or_gt_of_ne same with lt | lt
      · exact List.pairwise_iff_getElem.1 distinct position i hp hi lt both.symm
      · exact List.pairwise_iff_getElem.1 distinct i position hi hp lt both
    rw [if_neg same]
    exact if_neg other

/-- A row whose key is not among the rows goes to the end. -/
theorem upsertRow_fresh {conflict : List String} {st : UpsertState Value} {s : Row Value}
    (indexed : Indexed conflict st.rows st.index)
    (fresh : ∀ t ∈ st.rows, ¬ Row.Shares conflict t s) :
    upsertRow conflict "update" [] st s = .ok { st with
      index := st.index.set (conflict.map s) st.rows.length
      rows := st.rows ++ [s]
      loaded := st.loaded + 1 } := by
  have none : (if (conflict.map s).all Option.isSome then st.index.get (conflict.map s) else none) =
      none := by
    split_ifs with whole
    · exact (indexed.get_eq_none (all_isSome_map.1 whole)).2 fresh
    · rfl
  rw [upsertRow]
  simp only [none]

/-- A row takes the place of the row of its key. -/
theorem upsertRow_known {conflict : List String} {st : UpsertState Value} {s t : Row Value}
    {position : Nat} (indexed : Indexed conflict st.rows st.index)
    (here : st.rows[position]? = some t) (shares : Row.Shares conflict t s)
    (unseen : conflict.map s ∉ st.seenUpdates) :
    upsertRow conflict "update" [] st s = .ok { st with
      seenUpdates := conflict.map s :: st.seenUpdates
      rows := st.rows.modify position fun _ => s
      loaded := st.loaded + 1 } := by
  have whole : (conflict.map s).all Option.isSome = true := all_isSome_map.2 shares.symm.1
  have found : (if (conflict.map s).all Option.isSome then st.index.get (conflict.map s) else none) =
      some position := by
    rw [if_pos whole]
    exact (indexed _ whole position).2 ⟨t, here, (Row.shares_iff_map.1 shares).2⟩
  rw [upsertRow]
  simp only [found, unseen, if_true, if_false, List.not_mem_nil]

/-- **The loop of an update-upsert** over rows without repeated keys passes, replaces the rows of known
keys, appends the others, and counts every row. -/
theorem foldlM_upsertRow (literal : load.keyValue = id) {source : List (Row Value)}
    (st : UpsertState Value) (indexed : Indexed load.policy.conflictColumns st.rows st.index)
    (distinct : Distinct load.key st.rows) (apart : Distinct load.key source)
    (unseen : ∀ s ∈ source, Row.Complete load.policy.conflictColumns s →
      load.policy.conflictColumns.map s ∉ st.seenUpdates) :
    ∃ st', source.foldlM (upsertRow load.policy.conflictColumns "update" []) st = .ok st' ∧
      st'.rows = (replacing load literal).upsertAll (fun _ => ()) st.rows source ∧
      st'.loaded = st.loaded + source.length := by
  induction source generalizing st with
  | nil => exact ⟨st, rfl, rfl, rfl⟩
  | cons s rest ih =>
    obtain ⟨first, others⟩ := List.pairwise_cons.1 apart
    rw [List.foldlM_cons]
    by_cases met : ∃ t ∈ st.rows, Conflicts load.key t s
    · obtain ⟨t, mem, conflict⟩ := met
      obtain ⟨position, here⟩ := List.getElem?_of_mem mem
      have shares := (conflicts_iff literal).1 conflict
      have step := upsertRow_known indexed here shares (unseen s List.mem_cons_self shares.symm.1)
      have rows : (replacing load literal).upsert (fun _ => ()) 0 st.rows s =
          st.rows.modify position fun _ => s := upsert_modify distinct here conflict
      have distinct' := Upserting.distinct_upsert (U := replacing load literal) (fun _ => ()) distinct 0 s
      rw [rows] at distinct'
      have unseen' : ∀ x ∈ rest, Row.Complete load.policy.conflictColumns x →
          load.policy.conflictColumns.map x ∉
            load.policy.conflictColumns.map s :: st.seenUpdates := by
        intro x hx whole again
        rcases List.mem_cons.1 again with same | again
        · have repeated := (Row.shares_iff_map.2 ⟨whole, same⟩).symm
          exact first x hx ((conflicts_iff literal).2 repeated)
        · exact unseen x (List.mem_cons_of_mem _ hx) whole again
      obtain ⟨st', run, result, loaded⟩ := ih { st with
        seenUpdates := load.policy.conflictColumns.map s :: st.seenUpdates
        rows := st.rows.modify position fun _ => s
        loaded := st.loaded + 1 } (indexed.modify here shares) distinct' others unseen'
      refine ⟨st', by rw [step]; exact run, ?_, ?_⟩
      · rw [result, ← rows]
        rfl
      · rw [loaded, List.length_cons]
        dsimp only
        omega
    · have fresh : ∀ t ∈ st.rows, ¬ Conflicts (replacing load literal).key t s :=
        fun t mem h => met ⟨t, mem, h⟩
      have unshared : ∀ t ∈ st.rows, ¬ Row.Shares load.policy.conflictColumns t s :=
        fun t mem h => fresh t mem ((conflicts_iff literal).2 h)
      have step := upsertRow_fresh indexed unshared
      have rows : (replacing load literal).upsert (fun _ => ()) 0 st.rows s = st.rows ++ [s] := by
        have appended : (replacing load literal).upsert (fun _ => ()) 0 (st.rows ++ []) s =
            st.rows ++ [s] := Upserting.upsert_append_of_fresh fresh 0 []
        rwa [List.append_nil] at appended
      have distinct' := Upserting.distinct_upsert (U := replacing load literal) (fun _ => ()) distinct 0 s
      rw [rows] at distinct'
      obtain ⟨st', run, result, loaded⟩ := ih { st with
        index := st.index.set (load.policy.conflictColumns.map s) st.rows.length
        rows := st.rows ++ [s]
        loaded := st.loaded + 1 } (indexed.append unshared) distinct' others
          fun x hx => unseen x (List.mem_cons_of_mem _ hx)
      refine ⟨st', by rw [step]; exact run, ?_, ?_⟩
      · rw [result, ← rows]
        rfl
      · rw [loaded, List.length_cons]
        dsimp only
        omega

/-! ## The merged rows -/

/-- The rows of a table and of a source in the order of the emulator: each row of the table, or the row
of the source that has its key, and then the rows of the source with new keys. -/
def mergedRows (load : UpsertLoad Value Value) (rows source : List (Row Value)) : List (Row Value) :=
  rows.map (fun t => (source.find? fun s => Conflicts load.key t s).getD t) ++
    source.filter fun s => ∀ t ∈ rows, ¬ Conflicts load.key t s

theorem merged_replacing (source : List (Row Value)) :
    (replacing load literal).merged () rows source = mergedRows load rows source := by
  have placed (t : Row Value) : (replacing load literal).updated source t =
      (source.find? fun s => Conflicts load.key t s).getD t := by
    have same : (source.find? fun s => Conflicts (replacing load literal).key t s) =
        source.find? fun s => Conflicts load.key t s := by
      congr
    rw [Upserting.updated, same]
    cases found : source.find? fun s => Conflicts load.key t s with
    | none => rfl
    | some s =>
      have conflict : Conflicts load.key t s := by simpa using List.find?_some found
      exact (replacing load literal).view_update t s conflict.1 conflict.2
  exact congrArg₂ (· ++ ·) (List.map_congr_left fun t _ => placed t) (List.map_id' _)

variable {source : List (Row Value)}

/-- The merged rows are the rows that no row of the source meets, and the rows of the source. -/
theorem perm_mergedRows (literal : load.keyValue = id) (distinct : Distinct load.key rows)
    (apart : Distinct load.key source) :
    (mergedRows load rows source).Perm (left load.upserting rows source ++ source) := by
  have perm : ((replacing load literal).upsertAll (fun _ => ()) rows source).Perm
      (left (replacing load literal) rows source ++
        source.map ((replacing load literal).written () rows)) :=
    Upserting.perm_upsertAll (fun _ _ => rfl) distinct apart
  have same : source.map ((replacing load literal).written () rows) = source :=
    (List.map_congr_left fun s _ => written_replacing distinct s).trans (List.map_id' _)
  rw [same, Upserting.upsertAll_eq_merged (fun _ _ => rfl) distinct apart, merged_replacing] at perm
  exact perm

/-- **The update-upsert of the emulator** over rows without repeated keys makes a frame of the merged
rows. -/
theorem upsert_eq {values : FrameValues Value Dtype} {existing incoming : DemoFrame Value Dtype}
    (literal : load.keyValue = id) (distinct : Distinct load.key existing.rows)
    (apart : Distinct load.key incoming.rows) :
    upsert values existing incoming load.policy.conflictColumns "update" [] =
      match frameOfRows values existing.schema (mergedRows load existing.rows incoming.rows) with
      | some rows => .ok ({ schema := existing.schema, rows }, incoming.height)
      | none => .error (.other "PolarsError") := by
  have apart' : existing.rows.Pairwise fun a b => ¬ Row.Shares load.policy.conflictColumns a b :=
    distinct.imp fun h shares => h ((conflicts_iff literal).2 shares)
  obtain ⟨st, run, rows, loaded⟩ := foldlM_upsertRow literal
    { rows := existing.rows, index := indexOf load.policy.conflictColumns existing.rows }
    (indexed_indexOf apart') distinct apart fun _ _ _ => List.not_mem_nil
  dsimp only at rows loaded
  rw [Upserting.upsertAll_eq_merged (fun _ _ => rfl) distinct apart, merged_replacing] at rows
  rw [Nat.zero_add] at loaded
  rw [upsert, run]
  simp only [bind, Except.bind, rows, loaded]
  rfl

end DataMover.Emulator
