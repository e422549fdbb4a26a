import Mathlib

/-!
# Insertion-ordered dictionaries

Association lists with the update semantics of a Python `dict`: a new key goes to the end, an existing one
keeps its position and changes its value.
-/

universe u v

/-- The items of a dictionary, in insertion order. -/
abbrev Dict (α : Type u) (β : Type v) := List (α × β)

namespace Dict

variable {α : Type u} {β : Type v} [DecidableEq α]

/-- `d.get(key)`. -/
def get (d : Dict α β) (key : α) : Option β := d.lookup key

/-- `d[key] = value`. -/
def set : Dict α β → α → β → Dict α β
  | [], key, value => [(key, value)]
  | (k, v) :: rest, key, value =>
    if k = key then (k, value) :: rest else (k, v) :: set rest key value

/-- `{key: value for key, value in items}`. -/
def ofItems (items : List (α × β)) : Dict α β := items.foldl (fun d e => set d e.1 e.2) []

@[simp] theorem get_nil (key : α) : get ([] : Dict α β) key = none := rfl

@[simp] theorem get_cons (k : α) (v : β) (rest : Dict α β) (key : α) :
    get ((k, v) :: rest) key = if key = k then some v else get rest key := by
  rw [get, List.lookup_cons]
  by_cases same : key = k
  · rw [if_pos same, beq_iff_eq.2 same]
  · rw [if_neg same, beq_false_of_ne same, get]

@[simp] theorem get_set (d : Dict α β) (key : α) (value : β) (k : α) :
    get (set d key value) k = if k = key then some value else get d k := by
  induction d with
  | nil => rw [set, get_cons, get_nil]
  | cons e rest ih =>
    obtain ⟨l, v⟩ := e
    rw [set]
    by_cases same : l = key
    · subst same
      rw [if_pos rfl, get_cons, get_cons]
      split_ifs <;> rfl
    · rw [if_neg same, get_cons, get_cons, ih]
      split_ifs with first second
      · exact absurd (first.symm.trans second) same
      · rfl
      · rfl
      · rfl

/-- A change of the values, key by key. -/
theorem get_map {γ : Type*} (f : β → γ) (d : Dict α β) (key : α) :
    get (d.map fun e => (e.1, f e.2)) key = (get d key).map f := by
  induction d with
  | nil => rfl
  | cons e rest ih =>
    rw [List.map_cons, get_cons, ih, get_cons]
    split_ifs <;> rfl

theorem get_foldl_set (items : List (α × β)) (d : Dict α β) (key : α) :
    get (items.foldl (fun d e => set d e.1 e.2) d) key = (get items.reverse key).or (get d key) := by
  induction items generalizing d with
  | nil => rfl
  | cons e rest ih =>
    obtain ⟨k, v⟩ := e
    have last : get (rest.reverse ++ [(k, v)]) key = (get rest.reverse key).or (get [(k, v)] key) :=
      List.lookup_append
    rw [List.foldl_cons, ih, get_set, List.reverse_cons, last, get_cons, get_nil]
    cases get rest.reverse key <;> split_ifs <;> rfl

/-- Of several items with one key the last one counts. -/
theorem get_ofItems (items : List (α × β)) (key : α) :
    get (ofItems items) key = get items.reverse key := by
  rw [ofItems, get_foldl_set, get_nil, Option.or_none]

/-- `list(dict.fromkeys(keys))`. -/
def fromKeys (keys : List α) : List α := (ofItems (keys.map fun key => (key, ()))).map Prod.fst

/-- A new key goes to the end. -/
theorem set_of_not_mem {d : Dict α β} {key : α} (new : key ∉ d.map Prod.fst) (value : β) :
    set d key value = d ++ [(key, value)] := by
  induction d with
  | nil => rfl
  | cons e rest ih =>
    obtain ⟨k, v⟩ := e
    rw [List.map_cons, List.mem_cons, not_or] at new
    rw [set, if_neg (fun same => new.1 same.symm), ih new.2, List.cons_append]

/-- Items with distinct keys make up a dictionary as they are. -/
theorem ofItems_eq {items : List (α × β)} (distinct : (items.map Prod.fst).Nodup) :
    ofItems items = items := by
  have general (d : Dict α β) (distinct : ((d ++ items).map Prod.fst).Nodup) :
      items.foldl (fun d e => set d e.1 e.2) d = d ++ items := by
    induction items generalizing d with
    | nil => rw [List.append_nil, List.foldl_nil]
    | cons e rest ih =>
      have new : e.1 ∉ d.map Prod.fst := by
        intro mem
        rw [List.map_append, List.nodup_append] at distinct
        exact distinct.2.2 _ mem _ (List.mem_map.2 ⟨e, List.mem_cons_self, rfl⟩) rfl
      rw [List.foldl_cons, set_of_not_mem new]
      have whole : d ++ e :: rest = d ++ [(e.1, e.2)] ++ rest := by simp
      rw [whole] at distinct ⊢
      exact ih (by simpa using (List.nodup_append.1 (List.map_append ▸ distinct)).2.1) _ distinct
  exact general [] distinct

/-- What a dictionary holds is one of its items. -/
theorem mem_of_get {d : Dict α β} {key : α} {value : β} (h : get d key = some value) :
    (key, value) ∈ d := by
  obtain ⟨before, after, rfl, -⟩ := List.lookup_eq_some_iff.1 h
  exact List.mem_append_right _ List.mem_cons_self

theorem mem_keys_set {d : Dict α β} {key k : α} {value : β} :
    k ∈ (set d key value).map Prod.fst ↔ k ∈ d.map Prod.fst ∨ k = key := by
  induction d with
  | nil => simp [set]
  | cons e rest ih =>
    obtain ⟨l, v⟩ := e
    rw [set]
    split_ifs with same
    · subst same
      simp [or_comm]
    · rw [List.map_cons, List.mem_cons, ih, List.map_cons, List.mem_cons, or_assoc]

theorem nodup_set {d : Dict α β} (distinct : (d.map Prod.fst).Nodup) (key : α) (value : β) :
    ((set d key value).map Prod.fst).Nodup := by
  induction d with
  | nil => simp [set]
  | cons e rest ih =>
    obtain ⟨l, v⟩ := e
    rw [List.map_cons, List.nodup_cons] at distinct
    rw [set]
    split_ifs with same
    · exact List.nodup_cons.2 distinct
    · rw [List.map_cons, List.nodup_cons, mem_keys_set]
      exact ⟨not_or.2 ⟨distinct.1, same⟩, ih distinct.2⟩

@[simp] theorem mem_fromKeys {keys : List α} {k : α} : k ∈ fromKeys keys ↔ k ∈ keys := by
  have general (d : Dict α Unit) : k ∈ ((keys.map fun key => (key, ())).foldl
      (fun d e => set d e.1 e.2) d).map Prod.fst ↔ k ∈ d.map Prod.fst ∨ k ∈ keys := by
    induction keys generalizing d with
    | nil => simp
    | cons key rest ih => rw [List.map_cons, List.foldl_cons, ih, mem_keys_set, or_assoc, List.mem_cons]
  rw [fromKeys, ofItems, general]
  simp

/-- Distinct keys: every item is what the dictionary holds. -/
theorem get_of_mem {d : Dict α β} (distinct : (d.map Prod.fst).Nodup) {key : α} {value : β}
    (h : (key, value) ∈ d) : get d key = some value := by
  induction d with
  | nil => cases h
  | cons e rest ih =>
    obtain ⟨k, v⟩ := e
    rw [List.map_cons, List.nodup_cons] at distinct
    rw [get_cons]
    rcases List.mem_cons.1 h with same | mem
    · cases same
      exact if_pos rfl
    · rw [if_neg (by rintro rfl; exact distinct.1 (List.mem_map.2 ⟨_, mem, rfl⟩)), ih distinct.2 mem]

/-- The order of the items does not count. -/
theorem get_perm {d d' : Dict α β} (distinct : (d.map Prod.fst).Nodup) (perm : d.Perm d') (key : α) :
    get d key = get d' key := by
  have distinct' : (d'.map Prod.fst).Nodup := (perm.map Prod.fst).nodup_iff.1 distinct
  refine Option.ext fun value => ⟨fun h => ?_, fun h => ?_⟩
  · exact get_of_mem distinct' (perm.subset (mem_of_get h))
  · exact get_of_mem distinct (perm.symm.subset (mem_of_get h))

end Dict
