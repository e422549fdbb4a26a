import DataMover.FixedPoint

/-!
# Common column types

`_lossless_common_dtype`: the Polars type that the batches of a column are cast to before they become
one file.  Every value of the given types is a value of the common one, and the order of the types does
not matter.
-/

namespace DataMover

namespace Foundry

/-! ## Types and values -/

/-- A Polars type; the types that are compared only are kept by their name. -/
inductive Dtype where
  | int8
  | uint8
  | int16
  | uint16
  | int32
  | uint32
  | int64
  | uint64
  | float32
  | float64
  | decimal (precision scale : Option Nat)
  | other (name : String)
  deriving DecidableEq

/-- A value of a column: a number, another value of a floating-point type, or a value of another type,
with the name of that type. -/
inductive Value where
  | number (q : ℚ)
  | negativeZero
  | infinity (negative : Bool)
  | nan
  | datum (type text : String)
  deriving DecidableEq

/-- `_INTEGER_DTYPE_RANGES`. -/
def integerDtypeRanges : List (Dtype × Int × Int) := [
  (.int8, -2 ^ 7, 2 ^ 7 - 1), (.uint8, 0, 2 ^ 8 - 1),
  (.int16, -2 ^ 15, 2 ^ 15 - 1), (.uint16, 0, 2 ^ 16 - 1),
  (.int32, -2 ^ 31, 2 ^ 31 - 1), (.uint32, 0, 2 ^ 32 - 1),
  (.int64, -2 ^ 63, 2 ^ 63 - 1), (.uint64, 0, 2 ^ 64 - 1)]

/-- `_integer_dtype_range`. -/
def integerDtypeRange (dataType : Dtype) : Option (Int × Int) := integerDtypeRanges.lookup dataType

/-- `_FLOAT_DTYPES`. -/
def floatDtypes : List Dtype := [.float32, .float64]

/-- `isinstance(data_type, pl.Decimal)`. -/
def Dtype.isDecimal : Dtype → Bool
  | .decimal _ _ => true
  | _ => false

/-- The precision and the scale of a decimal type that has both. -/
def Dtype.decimalShape : Dtype → Option (Nat × Nat)
  | .decimal (some precision) (some scale) => some (precision, scale)
  | _ => none

/-- The values of a floating-point type with these numbers. -/
def floatValues (numbers : Set ℚ) : Set Value :=
  Value.number '' numbers ∪ {.negativeZero, .infinity false, .infinity true, .nan}

/-- The values that a column of the type can hold. -/
def Dtype.values : Dtype → Set Value
  | .float32 => floatValues (FloatingPoint.values 2 24 (-149) 104)
  | .float64 => floatValues (FloatingPoint.values 2 53 (-1074) 971)
  | .decimal precision scale =>
    Value.number '' FixedPoint.values 10 (precision.getD 38) (scale.getD 0)
  | .other name => Set.range (Value.datum name)
  | type => {v | ∃ range, integerDtypeRange type = some range ∧
      ∃ n : Int, range.1 ≤ n ∧ n ≤ range.2 ∧ v = .number n}

/-- An integer or a floating-point type. -/
def Dtype.isBinary (type : Dtype) : Bool := (integerDtypeRange type).isSome || type ∈ floatDtypes

/-- The types between which a column is cast: the same one, two decimals, or two binary ones. -/
def Dtype.CastsTo (type wider : Dtype) : Prop :=
  type = wider ∨ (type.isDecimal = true ∧ wider.isDecimal = true) ∨
    (type.isBinary = true ∧ wider.isBinary = true)

/-! ## The common type -/

/-- `max` of some integers. -/
def largest (numbers : List Int) : Int := numbers.max?.getD 0

/-- `min` of some integers. -/
def smallest (numbers : List Int) : Int := numbers.min?.getD 0

/-- The common type of decimals. -/
def commonDecimal (dataTypes : List Dtype) : Option Dtype :=
  if dataTypes.any fun d => d.decimalShape.isNone then none
  else
    let shapes := dataTypes.filterMap Dtype.decimalShape
    let scale := largest (shapes.map fun shape => (shape.2 : Int))
    let integerDigits := largest (shapes.map fun shape => (shape.1 : Int) - shape.2)
    let precision := max 1 (integerDigits + scale)
    if precision ≤ 38 then some (.decimal (some precision.toNat) (some scale.toNat)) else none

/-- The common type of integers. -/
def commonInteger (ranges : List (Int × Int)) : Option Dtype :=
  let minimum := smallest (ranges.map Prod.fst)
  let maximum := largest (ranges.map Prod.snd)
  (integerDtypeRanges.find? fun e => e.2.1 ≤ minimum && maximum ≤ e.2.2).map Prod.fst

/-- The common type of integers and floating-point numbers. -/
def commonFloat (dataTypes : List Dtype) : Option Dtype :=
  let floatDtype := if Dtype.float64 ∈ dataTypes then Dtype.float64 else .float32
  let exactIntegerLimit : Int := if floatDtype = .float64 then 2 ^ 53 else 2 ^ 24
  let bounds := dataTypes.filterMap integerDtypeRange
  if bounds.all fun pair => [pair.1, pair.2].all fun value =>
      -exactIntegerLimit ≤ value && value ≤ exactIntegerLimit then some floatDtype
  else none

/-- `_lossless_common_dtype`. -/
def losslessCommonDtype : List Dtype → Option Dtype
  | [] => none
  | first :: rest =>
    let dataTypes := first :: rest
    if dataTypes.all fun d => d = first then some first
    else if dataTypes.all Dtype.isDecimal then commonDecimal dataTypes
    else if dataTypes.all fun d => (integerDtypeRange d).isSome then
      commonInteger (dataTypes.filterMap integerDtypeRange)
    else if dataTypes.all fun d => d ∈ floatDtypes then some .float64
    else if dataTypes.all fun d => (integerDtypeRange d).isSome || d ∈ floatDtypes then
      commonFloat dataTypes
    else none

/-! ## Bounds -/

section Bounds

variable {numbers numbers' : List Int} {n : Int}

theorem le_largest (h : n ∈ numbers) : n ≤ largest numbers := by
  obtain ⟨m, found⟩ := Option.isSome_iff_exists.1 (List.isSome_max?_of_mem h)
  rw [largest, found, Option.getD_some]
  exact (List.max?_eq_some_iff.1 found).2 n h

theorem smallest_le (h : n ∈ numbers) : smallest numbers ≤ n := by
  obtain ⟨m, found⟩ := Option.isSome_iff_exists.1 (List.isSome_min?_of_mem h)
  rw [smallest, found, Option.getD_some]
  exact (List.min?_eq_some_iff.1 found).2 n h

theorem largest_perm (perm : numbers.Perm numbers') : largest numbers = largest numbers' := by
  have same : numbers.max? = numbers'.max? := by
    refine Option.ext fun m => ?_
    rw [List.max?_eq_some_iff, List.max?_eq_some_iff, perm.mem_iff]
    exact and_congr_right fun _ => forall_congr' fun _ => by rw [perm.mem_iff]
  rw [largest, same, largest]

theorem smallest_perm (perm : numbers.Perm numbers') : smallest numbers = smallest numbers' := by
  have same : numbers.min? = numbers'.min? := by
    refine Option.ext fun m => ?_
    rw [List.min?_eq_some_iff, List.min?_eq_some_iff, perm.mem_iff]
    exact and_congr_right fun _ => forall_congr' fun _ => by rw [perm.mem_iff]
  rw [smallest, same, smallest]

end Bounds

/-! ## The common type holds all values -/

section Represents

variable {dataTypes : List Dtype} {dataType type : Dtype}

/-- The values of an integer type. -/
theorem values_of_range {range : Int × Int} (h : integerDtypeRange dataType = some range) :
    dataType.values = {v | ∃ n : Int, range.1 ≤ n ∧ n ≤ range.2 ∧ v = .number n} := by
  have known (v : Value) : (∃ range', integerDtypeRange dataType = some range' ∧
      ∃ n : Int, range'.1 ≤ n ∧ n ≤ range'.2 ∧ v = .number n) ↔
        ∃ n : Int, range.1 ≤ n ∧ n ≤ range.2 ∧ v = .number n := by
    rw [h]
    simp
  cases dataType with
  | float32 | float64 | decimal _ _ | other _ => cases h
  | int8 | uint8 | int16 | uint16 | int32 | uint32 | int64 | uint64 => exact Set.ext known

theorem commonDecimal_values (h : commonDecimal dataTypes = some type) (mem : dataType ∈ dataTypes) :
    dataType.values ⊆ type.values := by
  unfold commonDecimal at h
  dsimp only at h
  split_ifs at h with unknown
  cases h
  have shaped : ∃ shape, dataType.decimalShape = some shape := by
    rw [← Option.isSome_iff_exists, Option.isSome_iff_ne_none]
    intro none_
    exact unknown (List.any_eq_true.2 ⟨dataType, mem, by rw [none_]; rfl⟩)
  obtain ⟨⟨p, s⟩, shaped⟩ := shaped
  have listed : (p, s) ∈ dataTypes.filterMap Dtype.decimalShape :=
    List.mem_filterMap.2 ⟨dataType, mem, shaped⟩
  have scale := le_largest (List.mem_map_of_mem (f := fun shape : Nat × Nat => (shape.2 : Int)) listed)
  have digits := le_largest
    (List.mem_map_of_mem (f := fun shape : Nat × Nat => (shape.1 : Int) - shape.2) listed)
  dsimp only at scale digits
  have shape : dataType = .decimal (some p) (some s) := by
    cases dataType with
    | decimal precision scale =>
      cases precision <;> cases scale <;> cases shaped
      rfl
    | _ => cases shaped
  subst shape
  apply Set.image_mono
  apply FixedPoint.values_subset (by decide)
  · simp only [Option.getD_some]
    omega
  · simp only [Option.getD_some]
    omega

theorem commonInteger_values {ranges : List (Int × Int)}
    (h : commonInteger ranges = some type) {range : Int × Int}
    (known : integerDtypeRange dataType = some range) (mem : range ∈ ranges) :
    dataType.values ⊆ type.values := by
  obtain ⟨⟨t, wide⟩, found, rfl⟩ := Option.map_eq_some_iff.1 h
  have bounds := List.find?_some found
  rw [Bool.and_eq_true, decide_eq_true_eq, decide_eq_true_eq] at bounds
  have target : integerDtypeRange t = some wide := by
    have all : ∀ e ∈ integerDtypeRanges, integerDtypeRange e.1 = some e.2 := by decide
    exact all _ (List.mem_of_find?_eq_some found)
  rw [values_of_range known, values_of_range target]
  rintro v ⟨n, low, high, rfl⟩
  have minimum := smallest_le (List.mem_map_of_mem (f := Prod.fst) mem)
  have maximum := le_largest (List.mem_map_of_mem (f := Prod.snd) mem)
  exact ⟨n, bounds.1.trans (minimum.trans low), (high.trans maximum).trans bounds.2, rfl⟩

theorem float32_values : Dtype.float32.values ⊆ Dtype.float64.values := by
  apply Set.union_subset_union_left
  apply Set.image_mono
  exact FloatingPoint.values_subset (by decide) (by decide) (by decide) (by decide)

theorem float_values (float : dataType ∈ floatDtypes) :
    dataType.values ⊆ Dtype.float64.values := by
  rcases List.mem_cons.1 float with rfl | float
  · exact float32_values
  · rw [List.mem_singleton.1 float]

/-- A range within the digits of a floating-point type. -/
theorem range_values {range : Int × Int} (known : integerDtypeRange dataType = some range)
    {p : ℕ} (hp : 1 ≤ p) {low high : ℤ} (below : low ≤ 0) (above : 1 ≤ high)
    (lower : -2 ^ p ≤ range.1) (upper : range.2 ≤ 2 ^ p) :
    dataType.values ⊆ floatValues (FloatingPoint.values 2 p low high) := by
  rw [values_of_range known]
  rintro v ⟨n, le, ge, rfl⟩
  refine .inl ⟨n, FloatingPoint.int_mem (by decide) hp below above ?_, rfl⟩
  exact abs_le.2 ⟨lower.trans le, ge.trans upper⟩

theorem commonFloat_values (h : commonFloat dataTypes = some type)
    (kinds : (integerDtypeRange dataType).isSome ∨ dataType ∈ floatDtypes)
    (mem : dataType ∈ dataTypes) : dataType.values ⊆ type.values := by
  have bounded (limit : Int) (t : Dtype) (h : (if (dataTypes.filterMap integerDtypeRange).all
      fun pair => [pair.1, pair.2].all fun value => -limit ≤ value && value ≤ limit
      then some t else none) = some type) : t = type ∧ ∀ range,
        integerDtypeRange dataType = some range → -limit ≤ range.1 ∧ range.2 ≤ limit := by
    split_ifs at h with all
    refine ⟨Option.some.inj h, fun range known => ?_⟩
    have pair := List.all_eq_true.1 all range (List.mem_filterMap.2 ⟨_, mem, known⟩)
    simp only [List.all_cons, List.all_nil, Bool.and_eq_true, decide_eq_true_eq] at pair
    exact ⟨pair.1.1, pair.2.1.2⟩
  have whole {p : ℕ} {low high : ℤ} (bounds : ∀ range, integerDtypeRange dataType = some range →
      -2 ^ p ≤ range.1 ∧ range.2 ≤ 2 ^ p) (hp : 1 ≤ p) (below : low ≤ 0) (above : 1 ≤ high)
      (known : (integerDtypeRange dataType).isSome) :
      dataType.values ⊆ floatValues (FloatingPoint.values 2 p low high) := by
    obtain ⟨range, known⟩ := Option.isSome_iff_exists.1 known
    exact range_values known hp below above (bounds range known).1 (bounds range known).2
  unfold commonFloat at h
  by_cases wide : Dtype.float64 ∈ dataTypes
  · obtain ⟨rfl, bounds⟩ := bounded (2 ^ 53) .float64 (by simpa [wide] using h)
    rcases kinds with known | float
    · exact whole bounds (by decide) (by decide) (by decide) known
    · exact float_values float
  · obtain ⟨rfl, bounds⟩ := bounded (2 ^ 24) .float32 (by simpa [wide] using h)
    rcases kinds with known | float
    · exact whole bounds (by decide) (by decide) (by decide) known
    · rcases List.mem_cons.1 float with rfl | float
      · exact subset_rfl
      · rw [List.mem_singleton.1 float] at mem
        exact absurd mem wide

/-- Every value of the given types is a value of their common type. -/
theorem losslessCommonDtype_values (h : losslessCommonDtype dataTypes = some type)
    (mem : dataType ∈ dataTypes) : dataType.values ⊆ type.values := by
  cases dataTypes with
  | nil => cases h
  | cons first rest =>
    rw [losslessCommonDtype] at h
    split_ifs at h with same decimals integers floats numbers
    · have eq := of_decide_eq_true (List.all_eq_true.1 same dataType mem)
      rw [eq, Option.some.inj h]
    · exact commonDecimal_values h mem
    · obtain ⟨range, known⟩ :=
        Option.isSome_iff_exists.1 (List.all_eq_true.1 integers dataType mem)
      exact commonInteger_values h known (List.mem_filterMap.2 ⟨dataType, mem, known⟩)
    · cases h
      exact float_values (of_decide_eq_true (List.all_eq_true.1 floats dataType mem))
    · refine commonFloat_values h ?_ mem
      have kind := List.all_eq_true.1 numbers dataType mem
      rwa [Bool.or_eq_true, decide_eq_true_eq] at kind

theorem commonDecimal_isDecimal (h : commonDecimal dataTypes = some type) : type.isDecimal = true := by
  unfold commonDecimal at h
  dsimp only at h
  split_ifs at h
  cases h
  rfl

theorem commonInteger_isBinary {ranges : List (Int × Int)} (h : commonInteger ranges = some type) :
    type.isBinary = true := by
  obtain ⟨e, found, rfl⟩ := Option.map_eq_some_iff.1 h
  have all : ∀ e ∈ integerDtypeRanges, e.1.isBinary = true := by decide
  exact all e (List.mem_of_find?_eq_some found)

theorem commonFloat_isBinary (h : commonFloat dataTypes = some type) : type.isBinary = true := by
  unfold commonFloat at h
  dsimp only at h
  split_ifs at h <;> cases h <;> rfl

/-- The given types are cast to their common type. -/
theorem losslessCommonDtype_castsTo (h : losslessCommonDtype dataTypes = some type)
    (mem : dataType ∈ dataTypes) : dataType.CastsTo type := by
  cases dataTypes with
  | nil => cases h
  | cons first rest =>
    rw [losslessCommonDtype] at h
    split_ifs at h with same decimals integers floats numbers
    · have eq := of_decide_eq_true (List.all_eq_true.1 same dataType mem)
      exact .inl (eq.trans (Option.some.inj h))
    · exact .inr (.inl ⟨List.all_eq_true.1 decimals _ mem, commonDecimal_isDecimal h⟩)
    · refine .inr (.inr ⟨?_, commonInteger_isBinary h⟩)
      rw [Dtype.isBinary, List.all_eq_true.1 integers _ mem, Bool.true_or]
    · cases h
      refine .inr (.inr ⟨?_, rfl⟩)
      rw [Dtype.isBinary, List.all_eq_true.1 floats _ mem, Bool.or_true]
    · exact .inr (.inr ⟨List.all_eq_true.1 numbers _ mem, commonFloat_isBinary h⟩)

end Represents

/-! ## The order of the types -/

section Order

variable {dataTypes dataTypes' : List Dtype}

theorem commonDecimal_perm (perm : dataTypes.Perm dataTypes') :
    commonDecimal dataTypes = commonDecimal dataTypes' := by
  have shapes := perm.filterMap Dtype.decimalShape
  simp only [commonDecimal, perm.any_eq, largest_perm (shapes.map _)]

theorem commonInteger_perm {ranges ranges' : List (Int × Int)} (perm : ranges.Perm ranges') :
    commonInteger ranges = commonInteger ranges' := by
  simp only [commonInteger, largest_perm (perm.map _), smallest_perm (perm.map _)]

theorem commonFloat_perm (perm : dataTypes.Perm dataTypes') :
    commonFloat dataTypes = commonFloat dataTypes' := by
  simp only [commonFloat, perm.mem_iff, (perm.filterMap integerDtypeRange).all_eq]

/-- Types that are all the same. -/
theorem all_same_iff {first : Dtype} {rest : List Dtype} :
    ((first :: rest).all fun d => d = first) = true ↔
      ∃ d, ∀ e ∈ first :: rest, e = d := by
  rw [List.all_eq_true]
  constructor
  · exact fun same => ⟨first, fun e mem => of_decide_eq_true (same e mem)⟩
  · rintro ⟨d, same⟩ e mem
    rw [same e mem, same first List.mem_cons_self]
    exact decide_eq_true rfl

/-- The order of the types does not matter. -/
theorem losslessCommonDtype_perm (perm : dataTypes.Perm dataTypes') :
    losslessCommonDtype dataTypes = losslessCommonDtype dataTypes' := by
  cases dataTypes with
  | nil => rw [List.nil_perm.1 perm]
  | cons first rest =>
    cases dataTypes' with
    | nil => exact absurd perm.symm.nil_eq (by simp)
    | cons first' rest' =>
      have same : ((first :: rest).all fun d => d = first) =
          ((first' :: rest').all fun d => d = first') := by
        rw [Bool.eq_iff_iff, all_same_iff, all_same_iff]
        simp only [perm.mem_iff]
      simp only [losslessCommonDtype]
      rw [same, commonDecimal_perm perm, commonInteger_perm (perm.filterMap _),
        commonFloat_perm perm, perm.all_eq, perm.all_eq, perm.all_eq, perm.all_eq]
      by_cases all : ((first' :: rest').all fun d => d = first') = true
      · rw [if_pos all, if_pos all]
        have head := List.all_eq_true.1 all first (perm.subset List.mem_cons_self)
        rw [of_decide_eq_true head]
      · rw [if_neg all, if_neg all]

end Order

end Foundry

end DataMover
