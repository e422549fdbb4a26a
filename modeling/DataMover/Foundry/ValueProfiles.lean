import DataMover.Engine.Labels
import DataMover.Foundry.LosslessTypes
import DataMover.Paging
import DataMover.Text.PyJson

/-!
# Value profiles of decimal columns

`_decimal_value_profiles` looks at the smallest and the largest value of every decimal column, merges
what it finds into the profiles of earlier batches and keeps them as JSON text.  A profile has enough
digits for every value of the columns it was made from, whatever is merged into it later.
-/

namespace DataMover

namespace Foundry

open Paging (mapM_eq_some)
open PyJson (PyString ofString Joined)

/-! ## Frames -/

/-- A column of a Polars frame; a null is `none`. -/
structure Column where
  name : String
  dtype : Dtype
  cells : List (Option Value)
  /-- The cells have the type of the column. -/
  typed : ∀ v, some v ∈ cells → v ∈ dtype.values

/-- A Polars frame. -/
structure TypedFrame where
  columns : List Column
  distinct : (columns.map Column.name).Nodup
  rect : ∀ c ∈ columns, ∀ d ∈ columns, c.cells.length = d.cells.length

/-- The types of the columns, in their order. -/
abbrev Schema := List (String × Dtype)

namespace TypedFrame

variable (f : TypedFrame)

/-- `frame.columns`. -/
def names : List String := f.columns.map Column.name

/-- `frame.schema`. -/
def schema : Schema := f.columns.map fun c => (c.name, c.dtype)

/-- `frame[name]`. -/
def column? (name : String) : Option Column := f.columns.find? fun c => c.name = name

/-- The cells of a column. -/
def cells (name : String) : List (Option Value) := ((f.column? name).map Column.cells).getD []

theorem schema_names : f.schema.map Prod.fst = f.names := by
  rw [schema, List.map_map]
  rfl

variable {f}

theorem column?_of_mem {c : Column} (mem : c ∈ f.columns) : f.column? c.name = some c := by
  obtain ⟨before, after, split⟩ := List.append_of_mem mem
  have distinct := f.distinct
  rw [split, List.map_append, List.map_cons, List.nodup_append] at distinct
  rw [column?, List.find?_eq_some_iff_append]
  refine ⟨decide_eq_true rfl, before, after, split, fun d hd => ?_⟩
  rw [Bool.not_eq_true', decide_eq_false_iff_not]
  exact distinct.2.2 _ (List.mem_map_of_mem hd) _ List.mem_cons_self

theorem mem_of_column? {name : String} {c : Column} (h : f.column? name = some c) :
    c ∈ f.columns ∧ c.name = name :=
  ⟨List.mem_of_find?_eq_some h, by simpa using List.find?_some h⟩

theorem cells_of_mem {c : Column} (mem : c ∈ f.columns) : f.cells c.name = c.cells := by
  rw [cells, column?_of_mem mem]
  rfl

theorem cells_eq_nil {name : String} (missing : name ∉ f.names) : f.cells name = [] := by
  cases found : f.column? name with
  | none => rw [cells, found, Option.map_none, Option.getD_none]
  | some c =>
    obtain ⟨mem, rfl⟩ := mem_of_column? found
    exact absurd (List.mem_map_of_mem mem) missing

theorem get_schema (name : String) : Dict.get f.schema name = (f.column? name).map Column.dtype := by
  rw [schema, column?]
  induction f.columns with
  | nil => rfl
  | cons c columns ih =>
    rw [List.map_cons, Dict.get_cons, ih, List.find?_cons]
    by_cases same : c.name = name
    · rw [if_pos same.symm, decide_eq_true same]
      rfl
    · rw [if_neg (Ne.symm same), decide_eq_false same]

end TypedFrame

/-! ## Profiles -/

/-- The scale and the integer digits of a decimal column. -/
abbrev Profile := Nat × Nat

/-- Profiles by column. -/
abbrev Profiles := Dict PyString Profile

/-- The numbers of a column. -/
def Column.numbers (c : Column) : List ℚ := c.cells.filterMap fun
  | some (.number q) => some q
  | _ => none

/-- The scale of the cells of a decimal column. -/
def Dtype.scale : Dtype → Nat
  | .decimal _ scale => scale.getD 0
  | _ => 0

/-- `Decimal(str(value))` of a cell of a decimal column: its digits and its exponent. -/
def cellDecimal (scale : Nat) (q : ℚ) : Nat × Int := ((q * 10 ^ scale).num.natAbs, -scale)

/-- The larger scale and the larger number of integer digits. -/
def widest (old new : Profile) : Profile := (max old.1 new.1, max old.2 new.2)

/-- What a value adds to the profile of its column. -/
def addValue (scale : Nat) (profile : Profile) : Option ℚ → Profile
  | none => profile
  | some q =>
    let number := cellDecimal scale q
    if number.1 = 0 then profile
    else widest profile ((-number.2).toNat, Casting.integerDigits number.1 number.2)

/-- The profile of a decimal column, from its smallest and its largest value. -/
def columnProfile (c : Column) : Profile :=
  [c.numbers.min?, c.numbers.max?].foldl (addValue c.dtype.scale) (0, 0)

/-- `profiles[column] = max(…)`. -/
def addProfile (profiles : Profiles) (e : PyString × Profile) : Profiles :=
  Dict.set profiles e.1 (widest ((Dict.get profiles e.1).getD (0, 0)) e.2)

/-- The decimal columns of a frame with their profiles. -/
def decimalColumns (f : TypedFrame) : List (PyString × Profile) :=
  (f.columns.filter fun c => c.dtype.isDecimal).map fun c => (ofString c.name, columnProfile c)

/-- `_decimal_value_profiles`. -/
def decimalValueProfiles (frames : List TypedFrame) : Profiles :=
  frames.foldl (fun profiles f => (decimalColumns f).foldl addProfile profiles) []

/-- `_merge_decimal_value_profiles`. -/
def mergeDecimalValueProfiles (profiles : List Profiles) : Profiles :=
  profiles.foldl (fun merged profile => profile.foldl addProfile merged) []

/-! ## Profiles as text -/

/-- The text of a profile. -/
def dumpsProfile (profile : Profile) : List Char :=
  '{' :: PyJson.dumpsMembers [(ofString "scale", digits profile.1),
    (ofString "integer_digits", digits profile.2)]

/-- `_store_decimal_value_profiles`. -/
def storeDecimalValueProfiles (profiles : Profiles) : String :=
  String.ofList ('{' :: PyJson.dumpsMembers (profiles.map fun e => (e.1, dumpsProfile e.2)))

/-- A JSON number that `json.loads` reads as an `int`. -/
def integerOf : PyJson.Json → Option Int
  | .number ('-' :: text) => if text.all Char.isDigit then some (-(numeral text)) else none
  | .number text => if text.all Char.isDigit then some (numeral text) else none
  | _ => none

/-- A profile of a JSON object. -/
def readProfile : PyJson.Json → Option Profile
  | .object profile => do
    let scale ← (Dict.get profile (ofString "scale")).bind integerOf
    let integerDigits ← (Dict.get profile (ofString "integer_digits")).bind integerOf
    if 0 ≤ scale ∧ 0 ≤ integerDigits then some (scale.toNat, integerDigits.toNat) else none
  | _ => none

/-- Room for every text: the numbers of profiles are numbers of digits, and they are nested twice. -/
def roomFor (text : String) : PyJson.Limits := ⟨0, text.toList.length⟩

/-- `_read_decimal_value_profiles`, from `metadata.get("decimal_value_profiles")`. -/
def readDecimalValueProfiles (text : Option String) : Profiles :=
  match PyJson.loads (roomFor (text.getD "{}")) (text.getD "{}") with
  | .ok (.object rawProfiles) =>
    Dict.ofItems (rawProfiles.filterMap fun e => (readProfile e.2).map fun profile => (e.1, profile))
  | _ => []

/-! ## The common schema -/

/-- The common type of a column. -/
def commonType (profiles : Profiles) (column : String) (columnTypes : List Dtype) : Option Dtype :=
  match Dict.get profiles (ofString column) with
  | some (scale, integerDigits) =>
    if columnTypes.all Dtype.isDecimal then
      let precision := max 1 (scale + integerDigits)
      if precision ≤ 38 then some (.decimal (some precision) (some scale)) else none
    else losslessCommonDtype columnTypes
  | none => losslessCommonDtype columnTypes

/-- `_lossless_common_schema`. -/
def losslessCommonSchema (schemas : List Schema) (profiles : Profiles) : Option Schema :=
  match schemas with
  | [] => none
  | first :: rest =>
    let columns := first.map Prod.fst
    if rest.any fun schema => schema.map Prod.fst ≠ columns then none
    else columns.mapM fun column =>
      (commonType profiles column (schemas.filterMap fun schema => Dict.get schema column)).map
        fun dataType => (column, dataType)

/-! ## A profile fits its column -/

/-- A profile has the digits of another one. -/
theorem le_widest (old new : Profile) : old ≤ widest old new ∧ new ≤ widest old new :=
  ⟨⟨le_max_left _ _, le_max_left _ _⟩, ⟨le_max_right _ _, le_max_right _ _⟩⟩

theorem le_addValue (scale : Nat) (profile : Profile) (value : Option ℚ) :
    profile ≤ addValue scale profile value := by
  cases value with
  | none => exact le_rfl
  | some q =>
    rw [addValue]
    split_ifs
    · exact le_rfl
    · exact (le_widest _ _).1

/-- The values of a profile. -/
def Profile.values (profile : Profile) : Set ℚ :=
  FixedPoint.values 10 (profile.1 + profile.2) profile.1

theorem Profile.values_mono {profile larger : Profile} (le : profile ≤ larger) :
    profile.values ⊆ larger.values := by
  have fraction : profile.1 ≤ larger.1 := le.1
  have whole : profile.2 ≤ larger.2 := le.2
  exact FixedPoint.values_subset (by decide) fraction (by omega)

/-- The coefficient of a cell. -/
theorem cellDecimal_fst {scale : Nat} {q : ℚ} {k : ℤ} (same : q * 10 ^ scale = k) :
    (cellDecimal scale q).1 = k.natAbs := by
  rw [cellDecimal, same, Rat.num_intCast]

/-- A value and its bound: the digits that were found for the bound are enough for the value. -/
theorem addValue_fits {precision scale : Nat} {bound q : ℚ} (profile : Profile)
    (whole : bound ∈ FixedPoint.values 10 precision scale)
    (value : q ∈ FixedPoint.values 10 precision scale) (nonzero : bound ≠ 0) (le : |q| ≤ |bound|) :
    q ∈ (addValue scale profile (some bound)).values := by
  obtain ⟨k, -, bound_eq⟩ := (FixedPoint.mem_values_iff (by decide)).1 whole
  obtain ⟨l, -, q_eq⟩ := (FixedPoint.mem_values_iff (by decide)).1 value
  push_cast at bound_eq q_eq
  have smaller : |l| ≤ |k| := by
    have scaled : |q * 10 ^ scale| ≤ |bound * 10 ^ scale| := by
      rw [abs_mul, abs_mul]
      exact mul_le_mul_of_nonneg_right le (abs_nonneg _)
    rw [bound_eq, q_eq] at scaled
    exact_mod_cast scaled
  have filled : k.natAbs ≠ 0 := by
    intro zero
    rw [Int.natAbs_eq_zero.1 zero, Int.cast_zero] at bound_eq
    exact nonzero ((mul_eq_zero.1 bound_eq).resolve_right (by positivity))
  have digits : q ∈ FixedPoint.values 10 (Nat.digits 10 k.natAbs).length scale := by
    refine (FixedPoint.mem_values_iff (by decide)).2 ⟨l, smaller.trans_lt ?_, by exact_mod_cast q_eq⟩
    rw [Int.abs_eq_natAbs]
    exact_mod_cast Nat.lt_base_pow_length_digits (by decide)
  have coefficient := cellDecimal_fst bound_eq
  rw [addValue, if_neg (by rw [coefficient]; exact filled), coefficient]
  apply Profile.values_mono (le_widest _ _).2
  apply FixedPoint.values_subset (by decide) _ _ digits
  · simp [cellDecimal]
  · simp only [cellDecimal, Casting.integerDigits]
    omega

theorem mem_numbers {c : Column} {q : ℚ} : q ∈ c.numbers ↔ some (.number q) ∈ c.cells := by
  rw [Column.numbers, List.mem_filterMap]
  constructor
  · rintro ⟨cell, mem, found⟩
    split at found
    · cases found
      exact mem
    · cases found
  · exact fun mem => ⟨_, mem, rfl⟩

/-- The cells of a decimal column are numbers of its type. -/
theorem decimal_cells {c : Column} (decimal : c.dtype.isDecimal = true) : ∃ precision, ∀ v,
    some v ∈ c.cells → ∃ q ∈ FixedPoint.values 10 precision c.dtype.scale, .number q = v := by
  have typed := c.typed
  cases type : c.dtype with
  | decimal precision scale =>
    rw [type] at typed
    exact ⟨_, typed⟩
  | _ =>
    rw [type] at decimal
    cases decimal

/-- Every cell of a decimal column has the digits of the profile. -/
theorem columnProfile_fits {c : Column} (decimal : c.dtype.isDecimal = true) {q : ℚ}
    (mem : some (.number q) ∈ c.cells) : q ∈ (columnProfile c).values := by
  obtain ⟨precision, cells⟩ := decimal_cells decimal
  have number {r : ℚ} (mem : r ∈ c.numbers) : r ∈ FixedPoint.values 10 precision c.dtype.scale := by
    obtain ⟨r', own, same⟩ := cells _ (mem_numbers.1 mem)
    rwa [Value.number.inj same] at own
  have listed : q ∈ c.numbers := mem_numbers.2 mem
  obtain ⟨low, smallest⟩ := Option.isSome_iff_exists.1 (List.isSome_min?_of_mem listed)
  obtain ⟨high, largest⟩ := Option.isSome_iff_exists.1 (List.isSome_max?_of_mem listed)
  obtain ⟨low_mem, low_le⟩ := List.min?_eq_some_iff.1 smallest
  obtain ⟨high_mem, le_high⟩ := List.max?_eq_some_iff.1 largest
  have profile : columnProfile c =
      addValue c.dtype.scale (addValue c.dtype.scale (0, 0) (some low)) (some high) := by
    rw [columnProfile, smallest, largest]
    rfl
  rw [profile]
  rcases lt_trichotomy q 0 with negative | zero | positive
  · -- the smallest value is as far below zero
    have below : low ≤ q := low_le q listed
    apply Profile.values_mono (le_addValue _ _ _)
    apply addValue_fits _ (number low_mem) (number listed) (by linarith)
    rw [abs_of_neg negative, abs_of_neg (by linarith)]
    linarith
  · rw [zero]
    exact FixedPoint.zero_mem (by decide)
  · -- the largest value is as far above zero
    have above : q ≤ high := le_high q listed
    apply addValue_fits _ (number high_mem) (number listed) (by linarith)
    rw [abs_of_pos positive, abs_of_pos (by linarith)]
    exact above

/-! ## Merged profiles -/

/-- The profiles have the digits of `profile` for a column. -/
def Covers (profiles : Profiles) (column : PyString) (profile : Profile) : Prop :=
  ∃ larger, Dict.get profiles column = some larger ∧ profile ≤ larger

section Merging

variable {profiles : Profiles} {column : PyString} {profile : Profile} {entries : List (PyString × Profile)}

theorem covers_addProfile (h : Covers profiles column profile) (e : PyString × Profile) :
    Covers (addProfile profiles e) column profile := by
  obtain ⟨larger, found, le⟩ := h
  rw [Covers, addProfile, Dict.get_set]
  split_ifs with same
  · subst same
    rw [found]
    exact ⟨_, rfl, le.trans (le_widest _ _).1⟩
  · exact ⟨larger, found, le⟩

theorem covers_self (profiles : Profiles) (e : PyString × Profile) :
    Covers (addProfile profiles e) e.1 e.2 := by
  rw [Covers, addProfile, Dict.get_set, if_pos rfl]
  exact ⟨_, rfl, (le_widest _ _).2⟩

theorem covers_foldl (h : Covers profiles column profile) :
    Covers (entries.foldl addProfile profiles) column profile := by
  induction entries generalizing profiles with
  | nil => exact h
  | cons e entries ih => exact ih (covers_addProfile h e)

theorem covers_of_mem (mem : (column, profile) ∈ entries) :
    Covers (entries.foldl addProfile profiles) column profile := by
  induction entries generalizing profiles with
  | nil => cases mem
  | cons e entries ih =>
    rcases List.mem_cons.1 mem with rfl | mem
    · rw [List.foldl_cons]
      exact covers_foldl (covers_self profiles (column, profile))
    · exact ih mem

theorem nodup_foldl (distinct : (profiles.map Prod.fst).Nodup) :
    ((entries.foldl addProfile profiles).map Prod.fst).Nodup := by
  induction entries generalizing profiles with
  | nil => exact distinct
  | cons e entries ih => exact ih (Dict.nodup_set distinct _ _)

theorem mergeDecimalValueProfiles_eq (list : List Profiles) :
    mergeDecimalValueProfiles list = list.flatten.foldl addProfile [] := by
  rw [mergeDecimalValueProfiles, List.foldl_flatten]

theorem decimalValueProfiles_eq (frames : List TypedFrame) :
    decimalValueProfiles frames = (frames.flatMap decimalColumns).foldl addProfile [] := by
  rw [decimalValueProfiles, List.foldl_flatMap]

/-- A merged profile covers what each of its parts covers. -/
theorem covers_merge {list : List Profiles} (mem : profiles ∈ list) (h : Covers profiles column profile) :
    Covers (mergeDecimalValueProfiles list) column profile := by
  obtain ⟨larger, found, le⟩ := h
  rw [mergeDecimalValueProfiles_eq]
  have entry : (column, larger) ∈ list.flatten :=
    List.mem_flatten.2 ⟨profiles, mem, Dict.mem_of_get found⟩
  have covered : Covers (list.flatten.foldl addProfile []) column larger := covers_of_mem entry
  obtain ⟨widest, found, le'⟩ := covered
  exact ⟨widest, found, le.trans le'⟩

/-- The profiles of some frames cover their decimal columns. -/
theorem covers_decimalValueProfiles {frames : List TypedFrame} {f : TypedFrame} (mem : f ∈ frames)
    {c : Column} (hc : c ∈ f.columns) (decimal : c.dtype.isDecimal = true) :
    Covers (decimalValueProfiles frames) (ofString c.name) (columnProfile c) := by
  rw [decimalValueProfiles_eq]
  exact covers_of_mem (List.mem_flatMap.2 ⟨f, mem,
    List.mem_map.2 ⟨c, List.mem_filter.2 ⟨hc, decimal⟩, rfl⟩⟩)

theorem nodup_merge (list : List Profiles) :
    ((mergeDecimalValueProfiles list).map Prod.fst).Nodup := by
  rw [mergeDecimalValueProfiles_eq]
  exact nodup_foldl List.nodup_nil

end Merging

/-! ## The text is read back -/

section Stored

open PyJson (Reads ReadsMember joined_ofString)

/-- What `json.loads` makes of the text of a profile. -/
def profileJson (profile : Profile) : PyJson.Json :=
  .object [(ofString "scale", .number (digits profile.1)),
    (ofString "integer_digits", .number (digits profile.2))]

theorem reads_dumpsProfile (profile : Profile) :
    Reads ⟨0, 1⟩ 4 (dumpsProfile profile) (profileJson profile) := by
  have members : List.Forall₂ (ReadsMember ⟨0, 0⟩ 1)
      [(ofString "scale", digits profile.1), (ofString "integer_digits", digits profile.2)]
      [(ofString "scale", .number (digits profile.1)),
        (ofString "integer_digits", .number (digits profile.2))] :=
    .cons ⟨rfl, joined_ofString _, PyJson.reads_toDigits rfl _⟩
      (.cons ⟨rfl, joined_ofString _, PyJson.reads_toDigits rfl _⟩ .nil)
  have distinct : [ofString "scale", ofString "integer_digits"].Nodup := by decide +kernel
  exact PyJson.reads_members members distinct

theorem integerOf_digits (n : Nat) : integerOf (.number (digits n)) = some (n : Int) := by
  have all : (digits n).all Char.isDigit = true := List.all_eq_true.2 (isDigit_digits n)
  have value := numeral_digits n
  cases shape : digits n with
  | nil => exact absurd shape (digits_ne_nil n)
  | cons d ds =>
    rw [shape] at all value
    have plain : d ≠ '-' := by
      rintro rfl
      exact absurd (List.all_cons ▸ all) (by simp)
    unfold integerOf
    split
    · rename_i same
      cases same
      exact absurd rfl plain
    · rename_i same
      cases same
      rw [if_pos all, value]
    · rename_i other
      exact absurd rfl (other _)

theorem readProfile_profileJson (profile : Profile) : readProfile (profileJson profile) = some profile := by
  have other : ofString "integer_digits" ≠ ofString "scale" := by decide +kernel
  simp [readProfile, profileJson, integerOf_digits, other]

/-- Profiles whose columns have names that JSON can hold. -/
structure Named (profiles : Profiles) : Prop where
  distinct : (profiles.map Prod.fst).Nodup
  joined : ∀ column ∈ profiles.map Prod.fst, Joined column

theorem joined_foldl {profiles : Profiles} {entries : List (PyString × Profile)}
    (own : ∀ column ∈ profiles.map Prod.fst, Joined column) (added : ∀ e ∈ entries, Joined e.1) :
    ∀ column ∈ (entries.foldl addProfile profiles).map Prod.fst, Joined column := by
  induction entries generalizing profiles with
  | nil => exact own
  | cons e entries ih =>
    obtain ⟨first, rest⟩ := List.forall_mem_cons.1 added
    refine ih (fun column mem => ?_) rest
    rcases Dict.mem_keys_set.1 mem with mem | rfl
    · exact own column mem
    · exact first

theorem named_merge {list : List Profiles} (named : ∀ profiles ∈ list, Named profiles) :
    Named (mergeDecimalValueProfiles list) where
  distinct := nodup_merge list
  joined := by
    rw [mergeDecimalValueProfiles_eq]
    refine joined_foldl (by simp) fun e mem => ?_
    obtain ⟨profiles, listed, mem⟩ := List.mem_flatten.1 mem
    exact (named profiles listed).joined _ (List.mem_map_of_mem mem)

theorem named_decimalValueProfiles (frames : List TypedFrame) : Named (decimalValueProfiles frames) where
  distinct := by
    rw [decimalValueProfiles_eq]
    exact nodup_foldl List.nodup_nil
  joined := by
    rw [decimalValueProfiles_eq]
    refine joined_foldl (by simp) fun e mem => ?_
    obtain ⟨f, -, mem⟩ := List.mem_flatMap.1 mem
    obtain ⟨c, -, rfl⟩ := List.mem_map.1 mem
    exact joined_ofString c.name

theorem reads_store {profiles : Profiles} (named : Named profiles) :
    Reads ⟨0, 2⟩ (4 + profiles.length + 1)
      ('{' :: PyJson.dumpsMembers (profiles.map fun e => (e.1, dumpsProfile e.2)))
      (.object (profiles.map fun e => (e.1, profileJson e.2))) := by
  have members : List.Forall₂ (ReadsMember ⟨0, 1⟩ 4) (profiles.map fun e => (e.1, dumpsProfile e.2))
      (profiles.map fun e => (e.1, profileJson e.2)) := by
    rw [List.forall₂_map_left_iff, List.forall₂_map_right_iff, List.forall₂_same]
    exact fun e he => ⟨rfl, named.joined _ (List.mem_map_of_mem he), reads_dumpsProfile e.2⟩
  have read := PyJson.reads_members members (by
    rw [List.map_map]
    exact named.distinct)
  rwa [List.length_map] at read

/-- What is stored is read back. -/
theorem read_store {profiles : Profiles} (named : Named profiles) :
    readDecimalValueProfiles (some (storeDecimalValueProfiles profiles)) = profiles := by
  have loaded : PyJson.loads (roomFor (storeDecimalValueProfiles profiles))
      (storeDecimalValueProfiles profiles) =
      .ok (.object (profiles.map fun e => (e.1, profileJson e.2))) := by
    have room : 2 ≤ (storeDecimalValueProfiles profiles).toList.length := by
      have long := PyJson.length_le_dumpsMembers (profiles.map fun e => (e.1, dumpsProfile e.2))
      rw [storeDecimalValueProfiles, String.toList_ofList, List.length_cons]
      omega
    cases profiles with
    | nil => rfl
    | cons e rest =>
      refine PyJson.loads_of_reads (reads_store named) room (by rintro ⟨⟩) ?_
      obtain ⟨tail, shape, ends⟩ := PyJson.dumpsMembers_cons e.1 (dumpsProfile e.2)
        (rest.map fun e => (e.1, dumpsProfile e.2))
      have long := PyJson.length_le_dumpsMembers
        [(ofString "scale", digits e.2.1), (ofString "integer_digits", digits e.2.2)]
      have own : (dumpsProfile e.2).length = (PyJson.dumpsMembers [(ofString "scale", digits e.2.1),
        (ofString "integer_digits", digits e.2.2)]).length + 1 := rfl
      have tail_length : rest.length < tail.length := by
        rcases ends with ⟨empty, rfl⟩ | ⟨-, rfl⟩
        · rw [List.map_eq_nil_iff.1 empty]
          decide
        · have longer := PyJson.length_le_dumpsMembers (rest.map fun e => (e.1, dumpsProfile e.2))
          rw [List.length_map] at longer
          rw [List.length_cons]
          omega
      rw [List.map_cons, shape]
      simp only [List.length_cons, List.length_append, List.length_nil] at long ⊢
      omega
  rw [readDecimalValueProfiles, Option.getD_some, loaded]
  dsimp only
  rw [List.filterMap_map]
  have items : profiles.filterMap ((fun e : PyString × PyJson.Json =>
      (readProfile e.2).map fun profile => (e.1, profile)) ∘ fun e => (e.1, profileJson e.2)) =
      profiles := by
    rw [List.filterMap_congr (g := some) fun e _ => by simp [readProfile_profileJson],
      List.filterMap_some]
  rw [items, Dict.ofItems_eq named.distinct]

theorem read_none : readDecimalValueProfiles none = [] := rfl

end Stored

/-! ## The common schema holds all values -/

section Schema

variable {profiles : Profiles} {frames : List TypedFrame} {common : Schema}

theorem losslessCommonSchema_eq_some {schemas : List Schema}
    (h : losslessCommonSchema schemas profiles = some common) :
    (∀ schema ∈ schemas, schema.map Prod.fst = common.map Prod.fst) ∧
      ∀ e ∈ common, commonType profiles e.1 (schemas.filterMap fun schema => Dict.get schema e.1) =
        some e.2 := by
  cases schemas with
  | nil => cases h
  | cons first rest =>
    rw [losslessCommonSchema] at h
    split_ifs at h with differs
    have typed := mapM_eq_some h
    have columns : common.map Prod.fst = first.map Prod.fst := by
      have same : List.Forall₂ Eq (first.map Prod.fst) (common.map Prod.fst) := by
        rw [List.forall₂_map_right_iff]
        refine typed.imp fun column e found => ?_
        obtain ⟨t, -, rfl⟩ := Option.map_eq_some_iff.1 found
        rfl
      rw [List.forall₂_eq_eq_eq] at same
      exact same.symm
    refine ⟨fun schema mem => ?_, fun e mem => ?_⟩
    · rw [columns]
      rcases List.mem_cons.1 mem with rfl | mem
      · rfl
      · by_contra other
        exact differs (List.any_eq_true.2 ⟨schema, mem, decide_eq_true other⟩)
    · obtain ⟨i, lt, rfl⟩ := List.mem_iff_getElem.1 mem
      have found := typed.get (typed.length_eq ▸ lt) lt
      obtain ⟨t, found, same⟩ := Option.map_eq_some_iff.1 found
      change _ = common[i] at same
      rw [← same]
      exact found

/-- The type of a column holds the values of a column that it was made for, which is cast to it. -/
theorem commonType_values {c : Column} {types : List Dtype} {t : Dtype}
    (h : commonType profiles c.name types = some t) (mem : c.dtype ∈ types)
    (covered : c.dtype.isDecimal = true → Covers profiles (ofString c.name) (columnProfile c)) :
    c.dtype.CastsTo t ∧ ∀ v, some v ∈ c.cells → v ∈ t.values := by
  have declared (h : losslessCommonDtype types = some t) :
      c.dtype.CastsTo t ∧ ∀ v, some v ∈ c.cells → v ∈ t.values :=
    ⟨losslessCommonDtype_castsTo h mem, fun v hv => losslessCommonDtype_values h mem (c.typed v hv)⟩
  rw [commonType] at h
  split at h
  · rename_i scale integerDigits found
    dsimp only at h
    split_ifs at h with decimals narrow
    · -- all decimals: the profile decides
      have decimal : c.dtype.isDecimal = true := List.all_eq_true.1 decimals _ mem
      refine ⟨.inr (.inl ⟨decimal, by cases h; rfl⟩), fun v hv => ?_⟩
      obtain ⟨precision, cells⟩ := decimal_cells decimal
      obtain ⟨q, -, rfl⟩ := cells v hv
      obtain ⟨larger, known, le⟩ := covered decimal
      rw [known] at found
      cases found
      cases h
      refine ⟨q, ?_, rfl⟩
      apply FixedPoint.values_subset (by decide) le_rfl _
        (Profile.values_mono le (columnProfile_fits decimal hv))
      simp only [Option.getD_some]
      omega
    · exact declared h
  · exact declared h

/-- Every frame of a common schema has its columns, and their values fit into its types. -/
theorem commonSchema_values (h : losslessCommonSchema (frames.map TypedFrame.schema) profiles = some common)
    (covered : ∀ f ∈ frames, ∀ c ∈ f.columns, c.dtype.isDecimal = true →
      Covers profiles (ofString c.name) (columnProfile c)) {f : TypedFrame} (hf : f ∈ frames) :
    f.names = common.map Prod.fst ∧
      ∀ c ∈ f.columns, ∀ t, (c.name, t) ∈ common →
        c.dtype.CastsTo t ∧ ∀ v, some v ∈ c.cells → v ∈ t.values := by
  obtain ⟨names, types⟩ := losslessCommonSchema_eq_some h
  refine ⟨?_, fun c hc t mem => ?_⟩
  · rw [← f.schema_names]
    exact names _ (List.mem_map_of_mem hf)
  · refine commonType_values (types _ mem) ?_ (covered f hf c hc)
    refine List.mem_filterMap.2 ⟨f.schema, List.mem_map_of_mem hf, ?_⟩
    rw [f.get_schema, TypedFrame.column?_of_mem hc]
    rfl

end Schema

end Foundry

end DataMover
