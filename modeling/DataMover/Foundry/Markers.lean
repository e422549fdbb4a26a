import DataMover.Foundry.Enumeration
import DataMover.Nested

/-!
# Marker matching

`matching_metadata_markers` on a tree of mappings, lists, sets and scalars, with the markers that
`configured_marker_values` makes of a setting.  What it returns is said leaf by leaf: the names that a
text or a number spells, and the nearest key above a leaf that affirms it.
-/

namespace DataMover

namespace Foundry

/-! ## The functions -/

/-- A scalar of a metadata tree; a number is kept as what `str` prints for it. -/
inductive MetadataScalar where
  | bool (b : Bool)
  | number (printed : String)
  | str (s : String)
  | other
  deriving DecidableEq

/-- `str(value)` of a text or a number. -/
def MetadataScalar.text? : MetadataScalar → Option String
  | .number printed => some printed
  | .str s => some s
  | _ => none

/-- The setting: nothing, a text with separators, or the texts of some items. -/
inductive MarkerSetting where
  | none
  | text (s : String)
  | items (names : List String)

/-- What the Unicode tables say: `casefold`, `isalnum` and `\w`. -/
structure MarkerText where
  casefold : String → String
  isAlnum : Char → Bool
  isWord : Char → Bool

namespace MarkerText

variable (t : MarkerText) (configured : List String)

/-- `normalize_marker`. -/
def normalizeMarker (value : String) : String :=
  String.ofList ((t.casefold value).toList.filter t.isAlnum)

/-- `re.findall(r"[\w.-]+", text)`. -/
def tokens (text : String) : List String :=
  ((text.toList.splitOnP fun c => !(t.isWord c || c = '.' || c = '-')).filter (· ≠ [])).map
    String.ofList

/-- The names that a text or a number names, under a key. -/
def scalarHits (key text : String) : List String :=
  (((t.tokens text).map t.normalizeMarker ++ [t.normalizeMarker text]).filter (· ∈ configured)) ++
    if t.normalizeMarker key ∈ configured ∧
        t.casefold (strip text) ∈ ["true", "yes", "1", "sensitive"] then
      [t.normalizeMarker key]
    else []

/-- `re.split(r"[,;\n]", value)`, or the items. -/
def candidates : MarkerSetting → List String
  | .none => []
  | .text s => (s.toList.splitOnP fun c => c = ',' || c = ';' || c = '\n').map String.ofList
  | .items names => names

/-- `configured_marker_values`; the members of the set are listed. -/
def configuredMarkerValues (value : MarkerSetting) : List String :=
  (((candidates value).map t.normalizeMarker).filter (· ≠ "")).dedup

variable {K : Type} (str : K → String)

/-- What a scalar hits under a key. -/
def leafHits (key : String) : MetadataScalar → List String
  | .bool b => if b ∧ t.normalizeMarker key ∈ configured then [t.normalizeMarker key] else []
  | .number printed => t.scalarHits configured key printed
  | .str s => t.scalarHits configured key s
  | .other => []

mutual

/-- `walk`; `str` prints the keys, and a set is a sequence in some order. -/
def walkTree (key : String) : Nested K MetadataScalar → List String
  | .leaf a => t.leafHits configured key a
  | .mapping entries => walkTreeEntries entries
  | .sequence items => walkTreeItems key items

def walkTreeEntries : List (K × Nested K MetadataScalar) → List String
  | [] => []
  | (key, value) :: entries => walkTree (str key) value ++ walkTreeEntries entries

def walkTreeItems (key : String) : List (Nested K MetadataScalar) → List String
  | [] => []
  | value :: items => walkTree key value ++ walkTreeItems key items

end

/-- `matching_metadata_markers`. -/
def matchingMarkers (metadata : Nested K MetadataScalar) : List String :=
  if configured = [] then [] else sorted (t.walkTree configured str "" metadata).dedup

mutual

/-- A JSON value as a metadata tree. -/
def ofJson : Json → Nested String MetadataScalar
  | .null => .leaf .other
  | .bool b => .leaf (.bool b)
  | .int n => .leaf (.number (toString n))
  | .float text => .leaf (.number text)
  | .str s => .leaf (.str s)
  | .arr items => .sequence (ofItems items)
  | .obj entries => .mapping (ofEntries entries)

def ofItems : List Json → List (Nested String MetadataScalar)
  | [] => []
  | item :: items => ofJson item :: ofItems items

def ofEntries : List (String × Json) → List (String × Nested String MetadataScalar)
  | [] => []
  | (key, value) :: entries => (key, ofJson value) :: ofEntries entries

end

/-- `matching_metadata_markers` of a JSON document. -/
def matchingMetadataMarkers (metadata : Json) : List String :=
  t.matchingMarkers configured id (ofJson metadata)

/-! ## What a leaf hits -/

section Leaves

variable {t configured str} {key m text : String}

/-- The leaf is the boolean `True`, or a text or a number that says so. -/
def Affirms (t : MarkerText) (a : MetadataScalar) : Prop :=
  a = .bool true ∨ ∃ text, a.text? = some text ∧
    t.casefold (strip text) ∈ ["true", "yes", "1", "sensitive"]

/-- The leaf spells the name, as a whole or as a token. -/
def Spells (t : MarkerText) (a : MetadataScalar) (m : String) : Prop :=
  ∃ text, a.text? = some text ∧
    (m = t.normalizeMarker text ∨ ∃ token ∈ t.tokens text, m = t.normalizeMarker token)

theorem mem_scalarHits : m ∈ t.scalarHits configured key text ↔ m ∈ configured ∧
    ((m = t.normalizeMarker text ∨ ∃ token ∈ t.tokens text, m = t.normalizeMarker token) ∨
      t.casefold (strip text) ∈ ["true", "yes", "1", "sensitive"] ∧ m = t.normalizeMarker key) := by
  rw [scalarHits, List.mem_append, List.mem_filter, List.mem_append, List.mem_map, List.mem_singleton,
    decide_eq_true_eq]
  constructor
  · rintro (⟨⟨token, mem, rfl⟩ | rfl, known⟩ | flagged)
    · exact ⟨known, .inl (.inr ⟨token, mem, rfl⟩)⟩
    · exact ⟨known, .inl (.inl rfl)⟩
    · split_ifs at flagged with h
      · rw [List.mem_singleton.1 flagged]
        exact ⟨h.1, .inr ⟨h.2, rfl⟩⟩
      · cases flagged
  · rintro ⟨known, (rfl | ⟨token, mem, rfl⟩) | ⟨word, rfl⟩⟩
    · exact .inl ⟨.inr rfl, known⟩
    · exact .inl ⟨.inl ⟨token, mem, rfl⟩, known⟩
    · refine .inr ?_
      rw [if_pos ⟨known, word⟩]
      exact List.mem_singleton_self _

theorem mem_leafHits {a : MetadataScalar} : m ∈ t.leafHits configured key a ↔
    m ∈ configured ∧ (t.Spells a m ∨ t.Affirms a ∧ m = t.normalizeMarker key) := by
  have printed (text : String) (own : a.text? = some text) (plain : a ≠ .bool true) :
      m ∈ t.scalarHits configured key text ↔
        m ∈ configured ∧ (t.Spells a m ∨ t.Affirms a ∧ m = t.normalizeMarker key) := by
    rw [mem_scalarHits, Spells, Affirms, own]
    simp [plain]
  cases a with
  | bool b =>
    rw [leafHits]
    cases b with
    | false => simp [Spells, Affirms, MetadataScalar.text?]
    | true =>
      constructor
      · intro h
        split_ifs at h with known
        · rw [List.mem_singleton.1 h]
          exact ⟨known.2, .inr ⟨.inl rfl, rfl⟩⟩
        · cases h
      · rintro ⟨known, ⟨text, own, -⟩ | ⟨-, rfl⟩⟩
        · cases own
        · rw [if_pos ⟨rfl, known⟩]
          exact List.mem_singleton_self _
  | number text => exact printed text rfl (by simp)
  | str text => exact printed text rfl (by simp)
  | other => simp [leafHits, Spells, Affirms, MetadataScalar.text?]

end Leaves

/-! ## What the walk finds -/

section Walk

variable {t configured str} {m : String}

/-- The key that the walk has at a leaf. -/
def nearestKey (str : K → String) (key : String) (keys : List K) : String :=
  (keys.getLast?.map str).getD key

theorem nearestKey_cons (key : String) (k : K) (keys : List K) :
    nearestKey str key (k :: keys) = nearestKey str (str k) keys := by
  rw [nearestKey, nearestKey, List.getLast?_cons]
  cases keys.getLast? <;> rfl

theorem walkTreeEntries_eq (entries : List (K × Nested K MetadataScalar)) :
    t.walkTreeEntries configured str entries =
      entries.flatMap fun e => t.walkTree configured str (str e.1) e.2 := by
  induction entries with
  | nil => rw [walkTreeEntries, List.flatMap_nil]
  | cons e entries ih => rw [walkTreeEntries, ih, List.flatMap_cons]

theorem walkTreeItems_eq (key : String) (items : List (Nested K MetadataScalar)) :
    t.walkTreeItems configured str key items = items.flatMap (t.walkTree configured str key) := by
  induction items with
  | nil => rw [walkTreeItems, List.flatMap_nil]
  | cons item items ih => rw [walkTreeItems, ih, List.flatMap_cons]

/-- The walk looks at every leaf, under the nearest key above it. -/
theorem mem_walkTree (key : String) (tree : Nested K MetadataScalar) :
    m ∈ t.walkTree configured str key tree ↔
      ∃ keys a, tree.Leaf keys a ∧ m ∈ t.leafHits configured (nearestKey str key keys) a := by
  induction tree using Nested.induct generalizing key with
  | leaf a =>
    rw [walkTree]
    constructor
    · exact fun h => ⟨[], a, .leaf a, h⟩
    · rintro ⟨keys, b, found, h⟩
      obtain ⟨rfl, rfl⟩ := Nested.leaf_leaf_iff.1 found
      exact h
  | mapping entries ih =>
    rw [walkTree, walkTreeEntries_eq, List.mem_flatMap]
    constructor
    · rintro ⟨e, mem, h⟩
      obtain ⟨keys, a, found, h⟩ := (ih e mem _).1 h
      exact ⟨e.1 :: keys, a, .entry mem found, by rwa [nearestKey_cons]⟩
    · rintro ⟨keys, a, found, h⟩
      obtain ⟨e, mem, below, rfl, inside⟩ := Nested.leaf_mapping_iff.1 found
      rw [nearestKey_cons] at h
      exact ⟨e, mem, (ih e mem _).2 ⟨below, a, inside, h⟩⟩
  | sequence items ih =>
    rw [walkTree, walkTreeItems_eq, List.mem_flatMap]
    constructor
    · rintro ⟨item, mem, h⟩
      obtain ⟨keys, a, found, h⟩ := (ih item mem key).1 h
      exact ⟨keys, a, .item mem found, h⟩
    · rintro ⟨keys, a, found, h⟩
      obtain ⟨item, mem, inside⟩ := Nested.leaf_sequence_iff.1 found
      exact ⟨item, mem, (ih item mem key).2 ⟨keys, a, inside, h⟩⟩

theorem mem_matchingMarkers {tree : Nested K MetadataScalar} : m ∈ t.matchingMarkers configured str tree ↔
    ∃ keys a, tree.Leaf keys a ∧ m ∈ t.leafHits configured (nearestKey str "" keys) a := by
  rw [matchingMarkers]
  split_ifs with empty
  · subst empty
    simp [mem_leafHits]
  · rw [mem_sorted, List.mem_dedup, mem_walkTree]

/-- A result lists its members in order, each once. -/
theorem matchingMarkers_pairwise (tree : Nested K MetadataScalar) :
    (t.matchingMarkers configured str tree).Pairwise (· < ·) := by
  rw [matchingMarkers]
  split_ifs
  · exact .nil
  · have distinct : (sorted (t.walkTree configured str "" tree).dedup).Nodup :=
      (List.perm_insertionSort _ _).nodup_iff.2 (List.nodup_dedup _)
    have ordered := List.pairwise_insertionSort (· ≤ ·) (t.walkTree configured str "" tree).dedup
    exact (ordered.and distinct).imp fun h => lt_of_le_of_ne h.1 h.2

/-- A result is known by its members. -/
theorem matchingMarkers_eq {tree tree' : Nested K MetadataScalar}
    (same : ∀ m, m ∈ t.matchingMarkers configured str tree ↔ m ∈ t.matchingMarkers configured str tree') :
    t.matchingMarkers configured str tree = t.matchingMarkers configured str tree' := by
  have perm := (List.perm_ext_iff_of_nodup
    ((matchingMarkers_pairwise (t := t) tree).imp ne_of_lt) 
    ((matchingMarkers_pairwise (t := t) tree').imp ne_of_lt)).2 same
  exact perm.eq_of_pairwise (fun a b _ _ ab ba => absurd ab (lt_asymm ba))
    (matchingMarkers_pairwise tree) (matchingMarkers_pairwise tree')

/-- More leaves, more hits. -/
theorem matchingMarkers_subset {tree tree' : Nested K MetadataScalar}
    (leaves : ∀ keys a, tree.Leaf keys a → tree'.Leaf keys a) :
    t.matchingMarkers configured str tree ⊆ t.matchingMarkers configured str tree' := by
  intro m h
  obtain ⟨keys, a, found, hit⟩ := mem_matchingMarkers.1 h
  exact mem_matchingMarkers.2 ⟨keys, a, leaves keys a found, hit⟩

theorem ne_empty_of_configured {value : MarkerSetting} (h : m ∈ t.configuredMarkerValues value) :
    m ≠ "" := by
  rw [configuredMarkerValues, List.mem_dedup, List.mem_filter, decide_eq_true_eq] at h
  exact h.2

end Walk

/-- Upper and lower case, letters and digits of ASCII. -/
def sample : MarkerText where
  casefold s := String.ofList (s.toList.map Char.toLower)
  isAlnum := Char.isAlphanum
  isWord c := c.isAlphanum || c = '_'

/-- Matching is exact: the result lists, in order and each once, the configured markers that some text
or number spells, or that are the nearest key of a leaf that affirms it.  The order of entries and items
does not matter, and added subtrees only add to it. -/
theorem matching_markers_are_exact (t : MarkerText) (plain : t.casefold "" = "") (value : MarkerSetting)
    (tree : Nested K MetadataScalar) :
    let configured := t.configuredMarkerValues value
    (t.matchingMarkers configured str tree).Pairwise (· < ·) ∧
    (∀ m, m ∈ t.matchingMarkers configured str tree ↔ m ∈ configured ∧
      ((∃ keys a, tree.Leaf keys a ∧ t.Spells a m) ∨
        ∃ keys a key, tree.Leaf keys a ∧ t.Affirms a ∧ keys.getLast? = some key ∧
          t.normalizeMarker (str key) = m)) ∧
    t.matchingMarkers configured str tree ⊆ configured ∧
    (∀ tree', tree.Reordered tree' →
      t.matchingMarkers configured str tree = t.matchingMarkers configured str tree') ∧
    ∀ tree', tree.Grown tree' →
      t.matchingMarkers configured str tree ⊆ t.matchingMarkers configured str tree' := by
  intro configured
  have members (m : String) : m ∈ t.matchingMarkers configured str tree ↔ m ∈ configured ∧
      ((∃ keys a, tree.Leaf keys a ∧ t.Spells a m) ∨
        ∃ keys a key, tree.Leaf keys a ∧ t.Affirms a ∧ keys.getLast? = some key ∧
          t.normalizeMarker (str key) = m) := by
    rw [mem_matchingMarkers]
    simp only [mem_leafHits]
    constructor
    · rintro ⟨keys, a, found, known, spells | ⟨affirms, own⟩⟩
      · exact ⟨known, .inl ⟨keys, a, found, spells⟩⟩
      · cases last : keys.getLast? with
        | none =>
          -- without a mapping the key is empty, and no marker is
          rw [nearestKey, last, Option.map_none, Option.getD_none, normalizeMarker, plain] at own
          exact absurd own (ne_empty_of_configured known)
        | some key =>
          rw [nearestKey, last, Option.map_some, Option.getD_some] at own
          exact ⟨known, .inr ⟨keys, a, key, found, affirms, last, own.symm⟩⟩
    · rintro ⟨known, ⟨keys, a, found, spells⟩ | ⟨keys, a, key, found, affirms, last, own⟩⟩
      · exact ⟨keys, a, found, known, .inl spells⟩
      · refine ⟨keys, a, found, known, .inr ⟨affirms, ?_⟩⟩
        rw [nearestKey, last, Option.map_some, Option.getD_some, own]
  refine ⟨matchingMarkers_pairwise tree, members, fun m h => ((members m).1 h).1, fun tree' h => ?_,
    fun tree' h => matchingMarkers_subset fun keys a found => h.leaf found⟩
  refine matchingMarkers_eq fun m => ⟨fun mem => ?_, fun mem => ?_⟩
  · exact matchingMarkers_subset (fun keys a found => h.leaf found) mem
  · exact matchingMarkers_subset (fun keys a found => h.symm.leaf found) mem

theorem matching_markers_of_sample :
    "pii" ∈ MarkerText.sample.matchingMarkers
      (MarkerText.sample.configuredMarkerValues (.text "p.i.i.,hr")) id
      (.mapping [("owner", .leaf (.str "sales")), ("PII", .sequence [.leaf (.bool true)])]) := by
  refine ((matching_markers_are_exact id sample rfl _ _).2.1 "pii").2 ⟨by decide +kernel, .inr ?_⟩
  refine ⟨["PII"], .bool true, "PII", ?_, .inl rfl, rfl, by decide +kernel⟩
  apply Nested.Leaf.entry (List.mem_cons_of_mem _ List.mem_cons_self)
  exact .item List.mem_cons_self (.leaf _)

end MarkerText

end Foundry

end DataMover
