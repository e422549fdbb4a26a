import Mathlib

/-!
# Nested containers

Values made of mappings, sequences and leaves, as JSON documents and metadata trees are.  `Leaf` and
`Stored` say what is found below which keys, `Related` compares two values but for what is stored under
some hidden keys, and `Changes` edits the containers at any depth.
-/

/-- A leaf, a mapping in the order of its entries, or a sequence. -/
inductive Nested (K L : Type) where
  | leaf (a : L)
  | mapping (entries : List (K × Nested K L))
  | sequence (items : List (Nested K L))

namespace Nested

variable {K L M : Type}

/-- Induction with a hypothesis for every child. -/
@[elab_as_elim]
theorem induct {motive : Nested K L → Prop} (leaf : ∀ a, motive (.leaf a))
    (mapping : ∀ entries, (∀ e ∈ entries, motive e.2) → motive (.mapping entries))
    (sequence : ∀ items, (∀ t ∈ items, motive t) → motive (.sequence items)) (t : Nested K L) :
    motive t :=
  @Nested.rec K L motive (fun entries => ∀ e ∈ entries, motive e.2) (fun items => ∀ t ∈ items, motive t)
    (fun e => motive e.2) leaf mapping sequence (by simp)
    (fun _ _ head tail => List.forall_mem_cons.2 ⟨head, tail⟩) (by simp)
    (fun _ _ head tail => List.forall_mem_cons.2 ⟨head, tail⟩) (fun _ _ value => value) t

/-- Every mapping has each key once. -/
inductive Distinct : Nested K L → Prop
  | leaf (a : L) : Distinct (.leaf a)
  | mapping {entries : List (K × Nested K L)} (keys : (entries.map Prod.fst).Nodup)
      (children : ∀ e ∈ entries, Distinct e.2) : Distinct (.mapping entries)
  | sequence {items : List (Nested K L)} (children : ∀ t ∈ items, Distinct t) :
      Distinct (.sequence items)

/-! ## What is found where -/

/-- A leaf, below the keys of the mappings around it, the outermost one first. -/
inductive Leaf : Nested K L → List K → L → Prop
  | leaf (a : L) : Leaf (.leaf a) [] a
  | entry {entries : List (K × Nested K L)} {key : K} {t : Nested K L} {keys : List K} {a : L}
      (mem : (key, t) ∈ entries) (inside : Leaf t keys a) : Leaf (.mapping entries) (key :: keys) a
  | item {items : List (Nested K L)} {t : Nested K L} {keys : List K} {a : L} (mem : t ∈ items)
      (inside : Leaf t keys a) : Leaf (.sequence items) keys a

/-- What some mapping, at any depth, stores under a key. -/
inductive Stored : Nested K L → K → Nested K L → Prop
  | here {entries : List (K × Nested K L)} {key : K} {t : Nested K L} (mem : (key, t) ∈ entries) :
      Stored (.mapping entries) key t
  | entry {entries : List (K × Nested K L)} {k key : K} {t v : Nested K L} (mem : (k, t) ∈ entries)
      (inside : Stored t key v) : Stored (.mapping entries) key v
  | item {items : List (Nested K L)} {key : K} {t v : Nested K L} (mem : t ∈ items)
      (inside : Stored t key v) : Stored (.sequence items) key v

section Leaves

variable {keys : List K} {a b : L} {entries : List (K × Nested K L)} {items : List (Nested K L)}

theorem leaf_leaf_iff : (Nested.leaf a : Nested K L).Leaf keys b ↔ keys = [] ∧ b = a := by
  constructor
  · intro h
    cases h
    exact ⟨rfl, rfl⟩
  · rintro ⟨rfl, rfl⟩
    exact .leaf b

theorem leaf_mapping_iff : (Nested.mapping entries).Leaf keys a ↔
    ∃ e ∈ entries, ∃ below, keys = e.1 :: below ∧ e.2.Leaf below a := by
  constructor
  · intro h
    cases h with
    | entry mem inside => exact ⟨_, mem, _, rfl, inside⟩
  · rintro ⟨e, mem, below, rfl, inside⟩
    exact .entry mem inside

theorem leaf_sequence_iff : (Nested.sequence items).Leaf keys a ↔ ∃ t ∈ items, t.Leaf keys a := by
  constructor
  · intro h
    cases h with
    | item mem inside => exact ⟨_, mem, inside⟩
  · rintro ⟨t, mem, inside⟩
    exact .item mem inside

end Leaves

/-! ## Comparing two values -/

/-- Two values with related leaves, the keys of their mappings ordered as `order` says, whatever the
hidden keys store. -/
inductive Related (order : List K → List K → Prop) (hidden : K → Prop) (same : L → M → Prop) :
    Nested K L → Nested K M → Prop
  | leaf {a : L} {b : M} (h : same a b) : Related order hidden same (.leaf a) (.leaf b)
  | mapping {entries : List (K × Nested K L)} {entries' : List (K × Nested K M)}
      (keys : order (entries.map Prod.fst) (entries'.map Prod.fst))
      (values : ∀ key t t', (key, t) ∈ entries → (key, t') ∈ entries' → ¬ hidden key →
        Related order hidden same t t') :
      Related order hidden same (.mapping entries) (.mapping entries')
  | sequence {items : List (Nested K L)} {items' : List (Nested K M)}
      (length : items.length = items'.length)
      (values : ∀ (i : Nat) t t', items[i]? = some t → items'[i]? = some t' → Related order hidden same t t') :
      Related order hidden same (.sequence items) (.sequence items')

/-- With nothing hidden and everything in the same order there is no difference. -/
theorem Related.eq {t t' : Nested K L} (h : Related Eq (fun _ => False) Eq t t') : t = t' := by
  induction h with
  | leaf same => rw [same]
  | @mapping entries entries' keys values ih =>
    have length : entries.length = entries'.length := by simpa using congrArg List.length keys
    refine congrArg _ (List.ext_getElem length fun i lt lt' => ?_)
    have key : entries[i].1 = entries'[i].1 := by
      have at_i := List.getElem_of_eq keys (by simpa using lt)
      rwa [List.getElem_map, List.getElem_map] at at_i
    refine Prod.ext key (ih entries[i].1 _ _ (List.getElem_mem lt) ?_ not_false)
    rw [key]
    exact List.getElem_mem lt'
  | @sequence items items' length values ih =>
    refine congrArg _ (List.ext_getElem length fun i lt lt' => ?_)
    exact ih i _ _ (List.getElem?_eq_getElem lt) (List.getElem?_eq_getElem lt')

/-! ## Editing the containers -/

/-- The containers are changed as `R` allows, at any depth and any number of times. -/
inductive Changes (R : (α : Type) → List α → List α → Prop) : Nested K L → Nested K L → Prop
  | refl (t : Nested K L) : Changes R t t
  | trans {t u v : Nested K L} (first : Changes R t u) (second : Changes R u v) : Changes R t v
  | entries {entries entries' : List (K × Nested K L)} (h : R _ entries entries') :
      Changes R (.mapping entries) (.mapping entries')
  | items {items items' : List (Nested K L)} (h : R _ items items') :
      Changes R (.sequence items) (.sequence items')
  | inEntry (before after : List (K × Nested K L)) (key : K) {t t' : Nested K L} (h : Changes R t t') :
      Changes R (.mapping (before ++ (key, t) :: after)) (.mapping (before ++ (key, t') :: after))
  | inItem (before after : List (Nested K L)) {t t' : Nested K L} (h : Changes R t t') :
      Changes R (.sequence (before ++ t :: after)) (.sequence (before ++ t' :: after))

/-- The entries and the items are rearranged. -/
def Reordered : Nested K L → Nested K L → Prop := Changes fun _ => List.Perm

/-- Subtrees are added. -/
def Grown : Nested K L → Nested K L → Prop := Changes fun _ => List.Sublist

section Changing

variable {R : (α : Type) → List α → List α → Prop} {t t' : Nested K L}

theorem Changes.symm (symm : ∀ {α : Type} {l l' : List α}, R α l l' → R α l' l) (h : Changes R t t') :
    Changes R t' t := by
  induction h with
  | refl t => exact .refl t
  | trans _ _ ih ih' => exact .trans ih' ih
  | entries h => exact .entries (symm h)
  | items h => exact .items (symm h)
  | inEntry before after key _ ih => exact .inEntry before after key ih
  | inItem before after _ ih => exact .inItem before after ih

/-- A change that only moves and adds keeps every leaf below its keys. -/
theorem Changes.leaf (keeps : ∀ {α : Type} {l l' : List α}, R α l l' → l ⊆ l') (h : Changes R t t')
    {keys : List K} {a : L} (found : t.Leaf keys a) : t'.Leaf keys a := by
  induction h generalizing keys with
  | refl => exact found
  | trans _ _ ih ih' => exact ih' (ih found)
  | entries h =>
    obtain ⟨e, mem, below, rfl, inside⟩ := leaf_mapping_iff.1 found
    exact .entry (keeps h mem) inside
  | items h =>
    obtain ⟨t, mem, inside⟩ := leaf_sequence_iff.1 found
    exact .item (keeps h mem) inside
  | inEntry before after key _ ih =>
    obtain ⟨e, mem, below, rfl, inside⟩ := leaf_mapping_iff.1 found
    rcases List.mem_append.1 mem with mem | mem
    · exact .entry (List.mem_append_left _ mem) inside
    · rcases List.mem_cons.1 mem with rfl | mem
      · exact .entry (List.mem_append_right _ List.mem_cons_self) (ih inside)
      · exact .entry (List.mem_append_right _ (List.mem_cons_of_mem _ mem)) inside
  | inItem before after _ ih =>
    obtain ⟨u, mem, inside⟩ := leaf_sequence_iff.1 found
    rcases List.mem_append.1 mem with mem | mem
    · exact .item (List.mem_append_left _ mem) inside
    · rcases List.mem_cons.1 mem with rfl | mem
      · exact .item (List.mem_append_right _ List.mem_cons_self) (ih inside)
      · exact .item (List.mem_append_right _ (List.mem_cons_of_mem _ mem)) inside

theorem Reordered.leaf (h : t.Reordered t') {keys : List K} {a : L} (found : t.Leaf keys a) :
    t'.Leaf keys a :=
  Changes.leaf (fun perm => perm.subset) h found

theorem Reordered.symm (h : t.Reordered t') : t'.Reordered t := Changes.symm (fun perm => perm.symm) h

theorem Grown.leaf (h : t.Grown t') {keys : List K} {a : L} (found : t.Leaf keys a) : t'.Leaf keys a :=
  Changes.leaf (fun sublist => sublist.subset) h found

end Changing

end Nested
