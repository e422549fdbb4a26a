import Mathlib

/-!
# JSON documents

The text columns of the application database hold JSON documents.  A stored document is kept here as
its parsed value (`Stored.document`) or as the text that `json.loads` rejects (`Stored.malformed`);
objects are insertion-ordered association lists with the update semantics of a Python `dict`.
-/

namespace DataMover

/-- A JSON value; a float is kept as its printed text. -/
inductive Json where
  | null
  | bool (b : Bool)
  | int (n : Int)
  | float (text : String)
  | str (s : String)
  | arr (items : List Json)
  | obj (entries : List (String × Json))

namespace Json

mutual

/-- Equality of JSON values is decided structurally. -/
def decEq : (a b : Json) → Decidable (a = b)
  | .null, .null => isTrue rfl
  | .bool a, .bool b => decidable_of_iff (a = b) (by simp)
  | .int a, .int b => decidable_of_iff (a = b) (by simp)
  | .float a, .float b => decidable_of_iff (a = b) (by simp)
  | .str a, .str b => decidable_of_iff (a = b) (by simp)
  | .arr a, .arr b => @decidable_of_iff _ (a = b) (by simp) (decEqItems a b)
  | .obj a, .obj b => @decidable_of_iff _ (a = b) (by simp) (decEqEntries a b)
  | .null, .bool _ | .null, .int _ | .null, .float _ | .null, .str _ | .null, .arr _
  | .null, .obj _ | .bool _, .null | .bool _, .int _ | .bool _, .float _ | .bool _, .str _
  | .bool _, .arr _ | .bool _, .obj _ | .int _, .null | .int _, .bool _ | .int _, .float _
  | .int _, .str _ | .int _, .arr _ | .int _, .obj _ | .float _, .null | .float _, .bool _
  | .float _, .int _ | .float _, .str _ | .float _, .arr _ | .float _, .obj _ | .str _, .null
  | .str _, .bool _ | .str _, .int _ | .str _, .float _ | .str _, .arr _ | .str _, .obj _
  | .arr _, .null | .arr _, .bool _ | .arr _, .int _ | .arr _, .float _ | .arr _, .str _
  | .arr _, .obj _ | .obj _, .null | .obj _, .bool _ | .obj _, .int _ | .obj _, .float _
  | .obj _, .str _ | .obj _, .arr _ => isFalse (by simp)

def decEqItems : (a b : List Json) → Decidable (a = b)
  | [], [] => isTrue rfl
  | [], _ :: _ | _ :: _, [] => isFalse (by simp)
  | x :: xs, y :: ys =>
    match decEq x y, decEqItems xs ys with
    | isTrue h, isTrue t => isTrue (by rw [h, t])
    | isFalse h, _ => isFalse fun e => h (List.cons.inj e).1
    | _, isFalse t => isFalse fun e => t (List.cons.inj e).2

def decEqEntries : (a b : List (String × Json)) → Decidable (a = b)
  | [], [] => isTrue rfl
  | [], _ :: _ | _ :: _, [] => isFalse (by simp)
  | (k, x) :: xs, (l, y) :: ys =>
    match decEq x y, decEqEntries xs ys with
    | isTrue h, isTrue t => decidable_of_iff (k = l) (by simp [h, t])
    | isFalse h, _ => isFalse fun e => h (Prod.mk.inj (List.cons.inj e).1).2
    | _, isFalse t => isFalse fun e => t (List.cons.inj e).2

end

instance : DecidableEq Json := decEq

/-- Python truthiness of a parsed value. -/
def truthy : Json → Bool
  | .null => false
  | .bool b => b
  | .int n => n != 0
  | .float text => text != "0.0" && text != "-0.0"
  | .str s => s != ""
  | .arr items => !items.isEmpty
  | .obj entries => !entries.isEmpty

end Json

/-- The entries of a JSON object, in insertion order. -/
abbrev Document := List (String × Json)

namespace Document

/-- `d.get(key)`. -/
def get (d : Document) (key : String) : Option Json := d.lookup key

/-- `d[key] = value`: an existing key keeps its position. -/
def set : Document → String → Json → Document
  | [], key, value => [(key, value)]
  | (k, v) :: rest, key, value =>
    if k = key then (k, value) :: rest else (k, v) :: set rest key value

/-- `d.update(other)`. -/
def update (d other : Document) : Document := other.foldl (fun acc e => acc.set e.1 e.2) d

@[simp] theorem get_nil (key : String) : get [] key = none := rfl

@[simp] theorem get_cons (k : String) (v : Json) (rest : Document) (key : String) :
    get ((k, v) :: rest) key = if key = k then some v else get rest key := by
  unfold get
  by_cases h : key = k
  · simp [h]
  · have : (key == k) = false := by simpa using h
    rw [if_neg h, List.lookup, this]

theorem get_set (d : Document) (key : String) (value : Json) (k : String) :
    (d.set key value).get k = if k = key then some value else d.get k := by
  induction d with
  | nil => simp [set]
  | cons e rest ih =>
    obtain ⟨l, v⟩ := e
    rw [set]
    split_ifs with h1 h2 h2
    · subst h1; simp [h2]
    · subst h1; simp [h2]
    · rw [get_cons, ih, if_neg (by rintro rfl; exact h1 h2), if_pos h2]
    · rw [get_cons, ih, get_cons, if_neg h2]

/-- An update only changes the keys it writes. -/
theorem get_update_of_get_eq_none {other : Document} {k : String} (h : other.get k = none)
    (d : Document) : (d.update other).get k = d.get k := by
  induction other generalizing d with
  | nil => rfl
  | cons e rest ih =>
    obtain ⟨l, v⟩ := e
    rw [get_cons] at h
    split_ifs at h with hl
    rw [update, List.foldl_cons, ← update, ih h, get_set, if_neg hl]

end Document

/-- The content of a JSON text column. -/
inductive Stored where
  | document (value : Json)
  | malformed (text : String)
  deriving DecidableEq

/-- `json.loads(column or "{}")`, `none` when it raises `ValueError`. -/
def loads : Option Stored → Option Json
  | none => some (.obj [])
  | some (.document value) => some value
  | some (.malformed text) => if text = "" then some (.obj []) else none

/-- `json.dumps(d)` for a dictionary, as stored in a column. -/
def dumps (d : Document) : Option Stored := some (.document (.obj d))

@[simp] theorem loads_dumps (d : Document) : loads (dumps d) = some (.obj d) := rfl

/-- `existing` of `_failure_facts`: the stored object, or `{}` when the column holds no object. -/
def loadsDocument (column : Option Stored) : Document :=
  match loads column with
  | some (.obj d) => d
  | _ => []

end DataMover
