import DataMover.Dict
import DataMover.Engine.CastScan
import DataMover.Engine.Labels
import DataMover.FixedPoint

/-!
# Decimals in existing destination columns

`validate_decimal_destination_schema` compares the type labels of source and destination columns of one
name, and refuses a destination that could not store every value of a source decimal.  The two schemas
become dictionaries by column name, so the guarantee is about columns with distinct names.
-/

namespace DataMover

/-! ## Labels -/

/-- A letter under `re.IGNORECASE`: the upper-case letters, and the three letters beyond ASCII that
Python lets match an `i` or an `s`. -/
def ignoreCase (c : Char) : Char :=
  if c = 'ı' ∨ c = 'İ' then 'i' else if c = 'ſ' then 's' else c.toLower

/-- `(\d+|None)`. -/
def digitsOrNone (u : UnicodeDigits) (cs : List Char) : Option (Option Nat × List Char) :=
  match digitRun u.digit cs with
  | ([], _) => ("none".toList.isPrefixOf? cs).map fun rest => (none, rest)
  | (digits, rest) => some (some (numeralValue digits), rest)

/-- `_DECIMAL.fullmatch(data_type.casefold())`. -/
def decimalMatch (lib : Library) (u : UnicodeDigits) (dataType : String) :
    Option (Option Nat × Option Nat) := do
  let rest ← "decimal(precision=".toList.isPrefixOf? ((lib.casefold dataType).toList.map ignoreCase)
  let (precision, rest) ← digitsOrNone u rest
  let rest ← [','].isPrefixOf? rest
  let rest ← "scale=".toList.isPrefixOf? (rest.dropWhile isSpace)
  let (scale, rest) ← digitsOrNone u rest
  if rest = [')'] then some (precision, scale) else none

/-- `decimal_shape`. -/
def decimalShapeOf (lib : Library) (u : UnicodeDigits) (dataType : String) : Option (Nat × Nat) :=
  match decimalMatch lib u dataType with
  | some (some precision, some scale) => some (precision, scale)
  | _ => none

/-- `{"numeric", "decimal"}`. -/
def unboundedNames : List String := ["numeric", "decimal"]

/-- `{"text", "character varying", "character"}`. -/
def textNames : List String := ["text", "character varying", "character"]

/-- `_has_unbounded_decimal_shape`. -/
def hasUnboundedDecimalShape (lib : Library) (u : UnicodeDigits) (dataType : String) : Bool :=
  if lib.casefold dataType ∈ unboundedNames then true
  else match decimalMatch lib u dataType with
    | some (some _, some _) | none => false
    | some _ => true

/-! ## The check -/

/-- The digits that an integer type has for sure. -/
def integerDigitsOf : List (String × Nat) := [("smallint", 4), ("integer", 9), ("bigint", 18)]

def decimalDrift (name problem : String) : Exn :=
  .connector {
    code := .schemaDrift
    summary := "Destination column '" ++ name ++ "' cannot " ++ problem
    retryable := false }

/-- The body of the loop over the unbounded source decimals. -/
def checkUnbounded (lib : Library) (u : UnicodeDigits) (destinations : Dict String String)
    (name : String) : Except Exn Unit :=
  match destinations.get name with
  | none => .ok ()
  | some destinationType =>
    if destinationType ∈ unboundedNames ∧ decimalShapeOf lib u destinationType = none then .ok ()
    else if destinationType ∈ textNames then .ok ()
    else .error (decimalDrift name "safely store the selected decimal cast without precision loss.")

/-- The body of the loop over the bounded source decimals. -/
def checkBounded (lib : Library) (u : UnicodeDigits) (destinations : Dict String String)
    (source : String × Nat × Nat) : Except Exn Unit :=
  let (name, sourcePrecision, sourceScale) := source
  match destinations.get name with
  | none => .ok ()
  | some destinationType =>
    if destinationType ∈ unboundedNames then .ok ()
    else match decimalShapeOf lib u destinationType with
      | some (destinationPrecision, destinationScale) =>
        if destinationScale < sourceScale ∨ (destinationPrecision : Int) - destinationScale <
            (sourcePrecision : Int) - sourceScale then
          .error (decimalDrift name "store the source decimal without rounding.")
        else .ok ()
      | none =>
        if destinationType ∈ textNames then .ok ()
        else if sourceScale = 0 ∧
            (integerDigitsOf.lookup destinationType).any fun digits => sourcePrecision ≤ digits then
          .ok ()
        else .error (decimalDrift name "store the source decimal without loss.")

/-- The bounded decimals among some columns. -/
def boundedDecimals (lib : Library) (u : UnicodeDigits) (columns : List ColumnSchema) :
    Dict String (Nat × Nat) :=
  Dict.ofItems (columns.filterMap fun column =>
    (decimalShapeOf lib u column.dataType).map fun shape => (column.name, shape))

/-- The names of the unbounded decimals among some columns. -/
def unboundedDecimals (lib : Library) (u : UnicodeDigits) (columns : List ColumnSchema) : List String :=
  Dict.fromKeys ((columns.filter fun column => hasUnboundedDecimalShape lib u column.dataType).map
    ColumnSchema.name)

/-- The folded types of the destination columns. -/
def destinationTypes (lib : Library) (columns : List ColumnSchema) : Dict String String :=
  Dict.ofItems (columns.map fun column => (column.name, lib.casefold column.dataType))

/-- `validate_decimal_destination_schema`. -/
def validateDecimalDestinationSchema (lib : Library) (u : UnicodeDigits)
    (sourceColumns destinationColumns : List ColumnSchema) : Except Exn Unit :=
  let sourceDecimals := boundedDecimals lib u sourceColumns
  let sourceUnboundedDecimals := unboundedDecimals lib u sourceColumns
  if sourceDecimals = [] ∧ sourceUnboundedDecimals = [] then .ok ()
  else do
    let destinations := destinationTypes lib destinationColumns
    sourceUnboundedDecimals.forM (checkUnbounded lib u destinations)
    sourceDecimals.forM (checkBounded lib u destinations)

/-- A row of `information_schema.columns`. -/
structure ColumnTypeRow where
  columnName : String
  dataType : String
  numericPrecision : Option Nat := none
  numericScale : Option Int := none

/-- The destination column of a row. -/
def ColumnTypeRow.column (lib : Library) (row : ColumnTypeRow) : ColumnSchema where
  name := row.columnName
  dataType :=
    if lib.casefold row.dataType ∈ unboundedNames then
      match row.numericPrecision with
      | some precision => decimalText (toString precision) (toString (row.numericScale.getD 0))
      | none => row.dataType
    else row.dataType

/-- `_validate_existing_decimal_columns`, for the rows that the query returns. -/
def validateExistingDecimalColumns (lib : Library) (u : UnicodeDigits) (rows : List ColumnTypeRow)
    (columns : List ColumnSchema) : Except Exn Unit :=
  if ¬ columns.any fun column => occursIn "decimal" (lib.casefold column.dataType) ||
      decide (lib.casefold column.dataType ∈ unboundedNames) then .ok ()
  else if rows = [] then .ok ()
  else validateDecimalDestinationSchema lib u columns (rows.map (ColumnTypeRow.column lib))

/-! ## What a destination can store -/

/-- The range of an integer type. -/
def integerRange (bits : Nat) : Set ℚ :=
  {v | ∃ n : ℤ, -2 ^ (bits - 1) ≤ n ∧ n < 2 ^ (bits - 1) ∧ v = n}

/-- The numbers that a column of a folded type stores exactly. -/
def storable (lib : Library) (u : UnicodeDigits) (destinationType : String) : Set ℚ :=
  if destinationType ∈ unboundedNames ∨ destinationType ∈ textNames then Set.univ
  else match decimalShapeOf lib u destinationType with
    | some (precision, scale) => FixedPoint.values 10 precision scale
    | none =>
      if destinationType = "smallint" then integerRange 16
      else if destinationType = "integer" then integerRange 32
      else if destinationType = "bigint" then integerRange 64
      else ∅

/-! ## Reading the labels -/

section Reading

variable {lib : Library} {u : UnicodeDigits}

theorem digit_eq_none {c : Char} (ascii : c.toNat < 128) (other : c.isDigit = false) :
    u.digit c = none := by
  rw [u.ascii c ascii, asciiDigit, other]
  rfl

theorem digitsOrNone_digits {c : Char} (n : Nat) (rest : List Char) (ascii : c.toNat < 128)
    (stop : c.isDigit = false) :
    digitsOrNone u (digits n ++ c :: rest) = some (some n, c :: rest) := by
  have run := digitRun_digits u (c :: rest) (isDigit_digits n)
    (by rintro _ ⟨⟩; exact digit_eq_none ascii stop)
  unfold digitsOrNone
  rw [run]
  have value := numeralValue_digitValues u (isDigit_digits n)
  rw [numeral_digits] at value
  have nonempty : digitValues u.digit (digits n) ≠ [] := by
    intro empty
    have split := length_digitRun u.digit (digits n ++ c :: rest)
    rw [run, List.length_append] at split
    dsimp only at split
    rw [empty, List.length_nil] at split
    exact digits_ne_nil n (List.length_eq_zero_iff.1 (by omega))
  split
  · rename_i same
    exact absurd (Prod.mk.inj same).1 nonempty
  · rename_i same
    obtain ⟨rfl, rfl⟩ := Prod.mk.inj same
    rw [value]

theorem digitsOrNone_minus (rest : List Char) : digitsOrNone u ('-' :: rest) = none := by
  unfold digitsOrNone
  rw [digitRun, digit_eq_none (by decide) (by decide)]
  have none : "none".toList.isPrefixOf? ('-' :: rest) = none :=
    isPrefixOf?_cons_ne "one".toList rest (by decide)
  dsimp only
  rw [none]
  rfl

/-- A folded decimal label is in lower case already. -/
theorem map_ignoreCase_foldedDecimal {precision scale : String} (hp : IsNumeral precision)
    (hs : IsNumeral scale) :
    (foldedDecimal precision scale).toList.map ignoreCase = (foldedDecimal precision scale).toList := by
  have numerals {text : String} (h : IsNumeral text) : text.toList.map ignoreCase = text.toList := by
    conv_rhs => rw [← h.map_toLower]
    refine List.map_congr_left fun c hc => ?_
    have small := h.toNat_le c hc
    unfold ignoreCase
    rw [if_neg, if_neg]
    · rintro rfl
      exact absurd small (by decide)
    · rintro (rfl | rfl) <;> exact absurd small (by decide)
  rw [toList_foldedDecimal]
  simp only [List.map_append, List.map_cons, numerals hp, numerals hs]
  rfl

/-- A text that folds to the label of a decimal type is read as what it says, unless its scale is
negative. -/
theorem decimalShapeOf_folded {text : String} {precision : Nat} {scale : Int}
    (folded : lib.casefold text = foldedDecimal (toString precision) (toString scale)) :
    decimalShapeOf lib u text = if 0 ≤ scale then some (precision, scale.toNat) else none := by
  unfold decimalShapeOf decimalMatch
  rw [folded, map_ignoreCase_foldedDecimal (isNumeral_nat precision) (isNumeral_int scale),
    toList_foldedDecimal, isPrefixOf?_append, toList_toString]
  simp only [Option.bind_eq_bind, Option.bind_some]
  rw [digitsOrNone_digits precision _ (by decide) (by decide)]
  simp only [Option.bind_some]
  rw [prefix_comma]
  simp only [Option.bind_some]
  rw [dropWhile_scale]
  simp only [Option.bind_some]
  cases scale with
  | ofNat n =>
    have text : (toString (Int.ofNat n)).toList = digits n := toList_toString n
    rw [text, digitsOrNone_digits n [] (by decide) (by decide)]
    rfl
  | negSucc n =>
    rw [toList_negSucc, List.cons_append, digitsOrNone_minus]
    rfl

theorem casefold_decimalText (folds : lib.FoldsAscii) (precision : Nat) (scale : Int) :
    lib.casefold (decimalText (toString precision) (toString scale)) =
      foldedDecimal (toString precision) (toString scale) := by
  have hp := isNumeral_nat precision
  have hs := isNumeral_int scale
  rw [folds _ (ascii_decimalText hp hs), lowered_decimalText hp hs]

/-- Folding a folded label changes nothing. -/
theorem casefold_foldedDecimal (folds : lib.FoldsAscii) (precision : Nat) (scale : Int) :
    lib.casefold (foldedDecimal (toString precision) (toString scale)) =
      foldedDecimal (toString precision) (toString scale) := by
  have hp := isNumeral_nat precision
  have hs := isNumeral_int scale
  have ascii : ∀ c ∈ (foldedDecimal (toString precision) (toString scale)).toList, c.toNat < 128 := by
    rw [← lowered_decimalText hp hs, toList_lowered]
    intro c hc
    obtain ⟨d, hd, rfl⟩ := List.mem_map.1 hc
    have small := ascii_decimalText hp hs d hd
    rcases toLower_cases d with same | ⟨low, high, lower⟩
    · rwa [same]
    · omega
  rw [folds _ ascii, ← String.toList_inj, toList_lowered, toList_foldedDecimal]
  simp only [List.map_append, List.map_cons, hp.map_toLower, hs.map_toLower]
  rfl

/-- An unbounded name has no shape. -/
theorem decimalShapeOf_unbounded {text : String} (h : lib.casefold text ∈ unboundedNames) :
    decimalShapeOf lib u text = none := by
  have names : lib.casefold text = "numeric" ∨ lib.casefold text = "decimal" := by
    simpa [unboundedNames] using h
  unfold decimalShapeOf decimalMatch
  rcases names with folded | folded
  · rw [folded]
    rfl
  · rw [folded]
    rfl

theorem casefold_unboundedNames (folds : lib.FoldsAscii) {name : String} (h : name ∈ unboundedNames) :
    lib.casefold name = name := by
  have names : name = "numeric" ∨ name = "decimal" := by simpa [unboundedNames] using h
  rcases names with rfl | rfl
  · exact (folds "numeric" (by simp)).trans (by decide)
  · exact (folds "decimal" (by simp)).trans (by decide)

end Reading

/-! ## One column -/

section Column

variable {lib : Library} {u : UnicodeDigits} {destinations : Dict String String} {name t : String}
  {p s P S : Nat}

/-- Whole numbers with few digits fit into an integer type. -/
theorem values_subset_integerRange {bits : Nat} (few : (10 : ℤ) ^ p ≤ 2 ^ (bits - 1)) :
    FixedPoint.values 10 p 0 ⊆ integerRange bits := by
  rintro _ ⟨k, small, rfl⟩
  have bounds := abs_lt.1 small
  push_cast at bounds
  exact ⟨k, by omega, by omega, by simp⟩

/-- An integer type that the check accepts. -/
theorem lookup_integerDigitsOf {digits : Nat} (h : integerDigitsOf.lookup t = some digits) :
    t = "smallint" ∧ digits = 4 ∨ t = "integer" ∧ digits = 9 ∨ t = "bigint" ∧ digits = 18 := by
  obtain ⟨before, after, split, -⟩ := List.lookup_eq_some_iff.1 h
  have mem : (t, digits) ∈ integerDigitsOf := split ▸ List.mem_append_right _ List.mem_cons_self
  simpa [integerDigitsOf] using mem

/-- A bounded decimal that is accepted can be stored. -/
theorem checkBounded_sound (found : destinations.get name = some t)
    (accepted : checkBounded lib u destinations (name, p, s) = .ok ()) :
    FixedPoint.values 10 p s ⊆ storable lib u t := by
  simp only [checkBounded, found] at accepted
  unfold storable
  by_cases unbounded : t ∈ unboundedNames
  · rw [if_pos (.inl unbounded)]
    exact Set.subset_univ _
  by_cases text : t ∈ textNames
  · rw [if_pos (.inr text)]
    exact Set.subset_univ _
  rw [if_neg (not_or.2 ⟨unbounded, text⟩)]
  rw [if_neg unbounded, if_neg text] at accepted
  cases shape : decimalShapeOf lib u t with
  | some e =>
    obtain ⟨P, S⟩ := e
    rw [shape] at accepted
    dsimp only at accepted ⊢
    split_ifs at accepted with short
    obtain ⟨fraction, whole⟩ := not_or.1 short
    exact FixedPoint.values_subset (by decide) (by omega) (by omega)
  | none =>
    rw [shape] at accepted
    dsimp only at accepted ⊢
    split_ifs at accepted with fits
    obtain ⟨rfl, fits⟩ := fits
    obtain ⟨digits, known, few⟩ := (Option.any_eq_true _ _).1 fits
    have few : p ≤ digits := of_decide_eq_true few
    have bound : (10 : ℤ) ^ p ≤ 10 ^ digits := pow_le_pow_right₀ (by decide) few
    rcases lookup_integerDigitsOf known with ⟨rfl, rfl⟩ | ⟨rfl, rfl⟩ | ⟨rfl, rfl⟩
    · exact values_subset_integerRange (bound.trans (by decide))
    · exact values_subset_integerRange (bound.trans (by decide))
    · exact values_subset_integerRange (bound.trans (by decide))

/-- An unbounded decimal that is accepted meets an unbounded number or a text. -/
theorem checkUnbounded_sound (found : destinations.get name = some t)
    (accepted : checkUnbounded lib u destinations name = .ok ()) :
    t ∈ unboundedNames ∨ t ∈ textNames := by
  simp only [checkUnbounded, found] at accepted
  split_ifs at accepted with unbounded text
  · exact .inl unbounded.1
  · exact .inr text

/-- Of two bounded decimals the check accepts exactly those where nothing is lost. -/
theorem checkBounded_iff (folds : lib.FoldsAscii) (found : destinations.get name = some t)
    (shape : decimalShapeOf lib u t = some (P, S)) (digit : 1 ≤ p) :
    checkBounded lib u destinations (name, p, s) = .ok () ↔
      FixedPoint.values 10 p s ⊆ FixedPoint.values 10 P S := by
  have bounded : t ∉ unboundedNames := by
    intro mem
    rw [decimalShapeOf_unbounded (by rwa [casefold_unboundedNames folds mem])] at shape
    cases shape
  rw [FixedPoint.values_subset_iff (by decide) digit]
  simp only [checkBounded, found, if_neg bounded, shape]
  constructor
  · intro accepted
    split_ifs at accepted with short
    omega
  · rintro ⟨fraction, whole⟩
    exact if_neg (by omega)

end Column

/-! ## All columns -/

theorem forM_eq_ok {ε α : Type} {f : α → Except ε Unit} {l : List α} :
    l.forM f = .ok () ↔ ∀ a ∈ l, f a = .ok () := by
  induction l with
  | nil => simp [List.forM, pure, Except.pure]
  | cons a l ih =>
    rw [List.forM, bind_eq_ok, List.forall_mem_cons, ← ih]
    exact ⟨fun ⟨_, first, rest⟩ => ⟨first, rest⟩, fun ⟨first, rest⟩ => ⟨(), first, rest⟩⟩

section Columns

variable {lib : Library} {u : UnicodeDigits} {sources destinations : List ColumnSchema}

/-- The check accepts what it accepts column by column. -/
theorem validateDecimalDestinationSchema_eq_ok :
    validateDecimalDestinationSchema lib u sources destinations = .ok () ↔
      (∀ name ∈ unboundedDecimals lib u sources,
        checkUnbounded lib u (destinationTypes lib destinations) name = .ok ()) ∧
      ∀ e ∈ boundedDecimals lib u sources,
        checkBounded lib u (destinationTypes lib destinations) e = .ok () := by
  unfold validateDecimalDestinationSchema
  dsimp only
  split_ifs with none
  · rw [none.1, none.2]
    simp
  · rw [bind_eq_ok, ← forM_eq_ok, ← forM_eq_ok]
    exact ⟨fun ⟨_, first, rest⟩ => ⟨first, rest⟩, fun ⟨first, rest⟩ => ⟨(), first, rest⟩⟩

theorem mem_unboundedDecimals {name : String} : name ∈ unboundedDecimals lib u sources ↔
    ∃ c ∈ sources, hasUnboundedDecimalShape lib u c.dataType = true ∧ c.name = name := by
  rw [unboundedDecimals, Dict.mem_fromKeys, List.mem_map]
  simp only [List.mem_filter, and_assoc]

/-- Columns with distinct names: the dictionary has an entry for each decimal. -/
theorem mem_boundedDecimals (distinct : (sources.map ColumnSchema.name).Nodup) {name : String}
    {shape : Nat × Nat} : (name, shape) ∈ boundedDecimals lib u sources ↔
      ∃ c ∈ sources, c.name = name ∧ decimalShapeOf lib u c.dataType = some shape := by
  have keys (columns : List ColumnSchema) : ((columns.filterMap fun column =>
      (decimalShapeOf lib u column.dataType).map fun shape => (column.name, shape)).map
        Prod.fst).Sublist (columns.map ColumnSchema.name) := by
    induction columns with
    | nil => exact .slnil
    | cons c columns ih =>
      rw [List.filterMap_cons, List.map_cons]
      cases decimalShapeOf lib u c.dataType with
      | none => exact ih.cons _
      | some shape => exact ih.cons_cons _
  rw [boundedDecimals, Dict.ofItems_eq (distinct.sublist (keys sources)),
    List.mem_filterMap]
  constructor
  · rintro ⟨c, mem, h⟩
    obtain ⟨e, shape, same⟩ := Option.map_eq_some_iff.1 h
    cases same
    exact ⟨c, mem, rfl, shape⟩
  · rintro ⟨c, mem, rfl, shape⟩
    exact ⟨c, mem, by rw [shape]; rfl⟩

/-- Columns with distinct names: the dictionary knows the type of each. -/
theorem get_destinationTypes (distinct : (destinations.map ColumnSchema.name).Nodup)
    {d : ColumnSchema} (mem : d ∈ destinations) :
    (destinationTypes lib destinations).get d.name = some (lib.casefold d.dataType) := by
  have keys : (destinations.map fun column => (column.name, lib.casefold column.dataType)).map Prod.fst =
      destinations.map ColumnSchema.name := by
    rw [List.map_map]
    rfl
  rw [destinationTypes, Dict.ofItems_eq (keys ▸ distinct)]
  exact Dict.get_of_mem (keys ▸ distinct) (List.mem_map.2 ⟨d, mem, rfl⟩)

theorem exists_of_get_destinationTypes {name t : String}
    (h : (destinationTypes lib destinations).get name = some t) :
    ∃ d ∈ destinations, d.name = name ∧ lib.casefold d.dataType = t := by
  rw [destinationTypes, Dict.get_ofItems] at h
  obtain ⟨d, mem, same⟩ := List.mem_map.1 (List.mem_reverse.1 (Dict.mem_of_get h))
  cases same
  exact ⟨d, mem, rfl, rfl⟩

end Columns

/-! ## Nothing is lost -/

/-- Every value of a bounded decimal fits its destination column, and an unbounded decimal meets an
unbounded number or a text. -/
structure LosesNothing (lib : Library) (u : UnicodeDigits) (sources destinations : List ColumnSchema) :
    Prop where
  bounded : ∀ c ∈ sources, ∀ d ∈ destinations, d.name = c.name →
    ∀ p s, decimalShapeOf lib u c.dataType = some (p, s) →
      FixedPoint.values 10 p s ⊆ storable lib u (lib.casefold d.dataType)
  unbounded : ∀ c ∈ sources, ∀ d ∈ destinations, d.name = c.name →
    hasUnboundedDecimalShape lib u c.dataType = true →
      lib.casefold d.dataType ∈ unboundedNames ∨ lib.casefold d.dataType ∈ textNames

/-- The columns of one name are bounded decimals, with a digit at least. -/
def BoundedPairs (lib : Library) (u : UnicodeDigits) (sources destinations : List ColumnSchema) : Prop :=
  ∀ c ∈ sources, ∀ d ∈ destinations, d.name = c.name → ∃ p s P S, 1 ≤ p ∧
    decimalShapeOf lib u c.dataType = some (p, s) ∧
    decimalShapeOf lib u (lib.casefold d.dataType) = some (P, S)

/-- The values of a source type are values of the destination type. -/
def Contained (lib : Library) (u : UnicodeDigits) (sources destinations : List ColumnSchema) : Prop :=
  ∀ c ∈ sources, ∀ d ∈ destinations, d.name = c.name → ∀ p s P S,
    decimalShapeOf lib u c.dataType = some (p, s) →
    decimalShapeOf lib u (lib.casefold d.dataType) = some (P, S) →
      FixedPoint.values 10 p s ⊆ FixedPoint.values 10 P S

/-- The numbers that a column with such a row stores exactly. -/
def ColumnTypeRow.storable (lib : Library) (u : UnicodeDigits) (row : ColumnTypeRow) : Set ℚ :=
  if lib.casefold row.dataType ∈ unboundedNames then
    match row.numericPrecision with
    | some precision =>
      {v | ∃ k : ℤ, |k| < (10 : ℤ) ^ precision ∧ v = k / (10 : ℚ) ^ (row.numericScale.getD 0)}
    | none => Set.univ
  else DataMover.storable lib u (lib.casefold row.dataType)

section Lossless

variable {lib : Library} {u : UnicodeDigits} {sources destinations : List ColumnSchema}

theorem losesNothing_of_accepted (distinct : (sources.map ColumnSchema.name).Nodup)
    (distinct' : (destinations.map ColumnSchema.name).Nodup)
    (accepted : validateDecimalDestinationSchema lib u sources destinations = .ok ()) :
    LosesNothing lib u sources destinations := by
  obtain ⟨free, bounded⟩ := validateDecimalDestinationSchema_eq_ok.1 accepted
  constructor
  · intro c hc d hd same p s shape
    have found : (destinationTypes lib destinations).get d.name = _ := get_destinationTypes distinct' hd
    rw [same] at found
    exact checkBounded_sound found (bounded _ ((mem_boundedDecimals distinct).2 ⟨c, hc, rfl, shape⟩))
  · intro c hc d hd same shape
    have found : (destinationTypes lib destinations).get d.name = _ := get_destinationTypes distinct' hd
    rw [same] at found
    exact checkUnbounded_sound found (free _ (mem_unboundedDecimals.2 ⟨c, hc, shape, rfl⟩))

/-- A bounded decimal is no unbounded one. -/
theorem not_unbounded_of_shape {text : String} {shape : Nat × Nat}
    (h : decimalShapeOf lib u text = some shape) : hasUnboundedDecimalShape lib u text = false := by
  have bounded : lib.casefold text ∉ unboundedNames := by
    intro mem
    rw [decimalShapeOf_unbounded mem] at h
    cases h
  unfold decimalShapeOf at h
  unfold hasUnboundedDecimalShape
  rw [if_neg bounded]
  split at h
  · rename_i matched
    rw [matched]
  · cases h

theorem accepted_iff_contained (folds : lib.FoldsAscii)
    (distinct : (sources.map ColumnSchema.name).Nodup)
    (distinct' : (destinations.map ColumnSchema.name).Nodup)
    (pairs : BoundedPairs lib u sources destinations) :
    validateDecimalDestinationSchema lib u sources destinations = .ok () ↔
      Contained lib u sources destinations := by
  rw [validateDecimalDestinationSchema_eq_ok]
  constructor
  · rintro ⟨-, bounded⟩ c hc d hd same p s P S shape shape'
    have found : (destinationTypes lib destinations).get d.name = _ := get_destinationTypes distinct' hd
    rw [same] at found
    obtain ⟨p', s', P', S', digit, own, -⟩ := pairs c hc d hd same
    rw [shape] at own
    cases own
    exact (checkBounded_iff folds found shape' digit).1
      (bounded _ ((mem_boundedDecimals distinct).2 ⟨c, hc, rfl, shape⟩))
  · intro contained
    constructor
    · intro name mem
      obtain ⟨c, hc, free, rfl⟩ := mem_unboundedDecimals.1 mem
      unfold checkUnbounded
      cases found : (destinationTypes lib destinations).get c.name with
      | none => rfl
      | some t =>
        obtain ⟨d, hd, same, rfl⟩ := exists_of_get_destinationTypes found
        obtain ⟨p, s, P, S, -, shape, -⟩ := pairs c hc d hd same
        rw [not_unbounded_of_shape shape] at free
        cases free
    · rintro ⟨name, p, s⟩ mem
      obtain ⟨c, hc, rfl, shape⟩ := (mem_boundedDecimals distinct).1 mem
      cases found : (destinationTypes lib destinations).get c.name with
      | none => simp only [checkBounded, found]
      | some t =>
        obtain ⟨d, hd, same, rfl⟩ := exists_of_get_destinationTypes found
        obtain ⟨p', s', P, S, digit, own, shape'⟩ := pairs c hc d hd same
        rw [shape] at own
        cases own
        exact (checkBounded_iff folds found shape' digit).2
          (contained c hc d hd same p s P S shape shape')

/-- What a column with the label of a decimal type stores. -/
theorem storable_foldedDecimal (folds : lib.FoldsAscii) (precision : Nat) (scale : Int) :
    storable lib u (foldedDecimal (toString precision) (toString scale)) ⊆
      {v | ∃ k : ℤ, |k| < (10 : ℤ) ^ precision ∧ v = k / (10 : ℚ) ^ scale} := by
  have shape := decimalShapeOf_folded (u := u) (casefold_foldedDecimal folds precision scale)
  have bracket := bracket_mem_foldedDecimal (toString precision) (toString scale)
  generalize foldedDecimal (toString precision) (toString scale) = text at shape bracket ⊢
  have other {name : String} (plain : '(' ∉ name.toList) : text ≠ name := by
    rintro rfl
    exact plain bracket
  have free : ¬ (text ∈ unboundedNames ∨ text ∈ textNames) := by
    simp only [unboundedNames, textNames, List.mem_cons, List.not_mem_nil, or_false, not_or]
    refine ⟨⟨?_, ?_⟩, ?_, ?_, ?_⟩ <;> exact other (by decide)
  unfold storable
  rw [if_neg free, shape]
  by_cases positive : 0 ≤ scale
  · rw [if_pos positive]
    rintro _ ⟨k, small, rfl⟩
    refine ⟨k, by exact_mod_cast small, ?_⟩
    rw [← zpow_natCast, Int.toNat_of_nonneg positive]
    rfl
  · rw [if_neg positive]
    dsimp only
    rw [if_neg (other (by decide)), if_neg (other (by decide)), if_neg (other (by decide))]
    exact Set.empty_subset _

/-- The rows of `information_schema.columns` that the check accepts. -/
theorem storable_of_existing (folds : lib.FoldsAscii)
    (distinct : (sources.map ColumnSchema.name).Nodup) {rows : List ColumnTypeRow}
    (distinct' : (rows.map ColumnTypeRow.columnName).Nodup)
    (accepted : validateExistingDecimalColumns lib u rows sources = .ok ())
    {c : ColumnSchema} (hc : c ∈ sources) {p s : Nat}
    (label : c.dataType = decimalText (toString p) (toString s)) {r : ColumnTypeRow} (hr : r ∈ rows)
    (same : r.columnName = c.name) : FixedPoint.values 10 p s ⊆ r.storable lib u := by
  have folded : lib.casefold c.dataType = foldedDecimal (toString p) (toString (s : Int)) :=
    label ▸ casefold_decimalText folds p s
  have shape : decimalShapeOf lib u c.dataType = some (p, s) :=
    (decimalShapeOf_folded folded).trans (if_pos (Int.natCast_nonneg s))
  have inspected : validateDecimalDestinationSchema lib u sources
      (rows.map (ColumnTypeRow.column lib)) = .ok () := by
    unfold validateExistingDecimalColumns at accepted
    have decimal : occursIn "decimal" (lib.casefold c.dataType) = true := by
      rw [folded]
      refine decide_eq_true (List.IsPrefix.isInfix ?_)
      rw [toList_foldedDecimal]
      exact List.prefix_append_of_prefix (by decide)
    rw [if_neg (not_not.2 (List.any_eq_true.2 ⟨c, hc, by rw [decimal]; rfl⟩)),
      if_neg (List.ne_nil_of_mem hr)] at accepted
    exact accepted
  have names : (rows.map (ColumnTypeRow.column lib)).map ColumnSchema.name =
      rows.map ColumnTypeRow.columnName := by
    rw [List.map_map]
    rfl
  have stored := (losesNothing_of_accepted distinct (names ▸ distinct') inspected).bounded c hc
    (r.column lib) (List.mem_map.2 ⟨r, hr, rfl⟩) same p s shape
  refine stored.trans ?_
  unfold ColumnTypeRow.storable ColumnTypeRow.column
  dsimp only
  by_cases numeric : lib.casefold r.dataType ∈ unboundedNames
  · rw [if_pos numeric, if_pos numeric]
    cases precision : r.numericPrecision with
    | none => exact Set.subset_univ _
    | some P =>
      dsimp only
      rw [casefold_decimalText folds]
      exact storable_foldedDecimal folds P _
  · rw [if_neg numeric, if_neg numeric]

/-- Columns with distinct names: what the check accepts loses nothing, and of bounded decimals it accepts
exactly those where nothing can be lost. -/
theorem accepted_decimals_lose_nothing (folds : lib.FoldsAscii)
    (distinct : (sources.map ColumnSchema.name).Nodup)
    (distinct' : (destinations.map ColumnSchema.name).Nodup) :
    (validateDecimalDestinationSchema lib u sources destinations = .ok () →
      LosesNothing lib u sources destinations) ∧
    (BoundedPairs lib u sources destinations →
      (validateDecimalDestinationSchema lib u sources destinations = .ok () ↔
        Contained lib u sources destinations)) ∧
    ∀ rows : List ColumnTypeRow, (rows.map ColumnTypeRow.columnName).Nodup →
      validateExistingDecimalColumns lib u rows sources = .ok () →
      ∀ c ∈ sources, ∀ p s : Nat, c.dataType = decimalText (toString p) (toString s) →
        ∀ r ∈ rows, r.columnName = c.name → FixedPoint.values 10 p s ⊆ r.storable lib u :=
  ⟨losesNothing_of_accepted distinct distinct', accepted_iff_contained folds distinct distinct',
    fun _ distinct'' accepted _ hc _ _ label _ hr => storable_of_existing folds distinct distinct''
      accepted hc label hr⟩

end Lossless

theorem sample_foldsAscii : Library.sample.FoldsAscii := fun _ _ => rfl

/-- A price of ten digits, two of them after the point. -/
def priceColumn : ColumnSchema := { name := "price", dataType := "Decimal(precision=10, scale=2)" }

theorem accepted_decimals_of_prices :
    validateDecimalDestinationSchema Library.sample Ssn.asciiDigits [priceColumn]
      [{ name := "price", dataType := "Decimal(precision=12, scale=3)" }] = .ok () ∧
    FixedPoint.values 10 10 2 ⊆ FixedPoint.values 10 12 3 := by
  let wide : ColumnSchema := { name := "price", dataType := "Decimal(precision=12, scale=3)" }
  have whole := @accepted_decimals_lose_nothing Library.sample Ssn.asciiDigits [priceColumn] [wide]
    sample_foldsAscii (by decide) (by decide)
  have accepted : validateDecimalDestinationSchema Library.sample Ssn.asciiDigits [priceColumn] [wide] =
      .ok () := by decide +kernel
  have stored := (whole.1 accepted).bounded _ List.mem_cons_self _ List.mem_cons_self rfl 10 2
    (by decide +kernel)
  have shape : storable Library.sample Ssn.asciiDigits (Library.sample.casefold wide.dataType) =
      FixedPoint.values 10 12 3 := by
    unfold storable
    rw [if_neg (by decide +kernel)]
    have read : decimalShapeOf Library.sample Ssn.asciiDigits (Library.sample.casefold wide.dataType) =
        some (12, 3) := by decide +kernel
    rw [read]
  exact ⟨accepted, shape ▸ stored⟩

/-- Two source columns of one name, the first one wider than the destination; and a decimal without
digits, whose only value fits everywhere. -/
theorem accepted_decimals_lose_something :
    ¬ (∀ sources destinations,
      validateDecimalDestinationSchema Library.sample Ssn.asciiDigits sources destinations = .ok () →
      ∀ c ∈ sources, ∀ d ∈ destinations, d.name = c.name → ∀ p s, s ≤ p →
        decimalShapeOf Library.sample Ssn.asciiDigits c.dataType = some (p, s) →
        FixedPoint.values 10 p s ⊆
          storable Library.sample Ssn.asciiDigits (Library.sample.casefold d.dataType)) ∧
    ¬ (∀ c d : ColumnSchema, d.name = c.name → ∀ p s P S, s ≤ p →
      decimalShapeOf Library.sample Ssn.asciiDigits c.dataType = some (p, s) →
      decimalShapeOf Library.sample Ssn.asciiDigits (Library.sample.casefold d.dataType) = some (P, S) →
      (validateDecimalDestinationSchema Library.sample Ssn.asciiDigits [c] [d] = .ok () ↔
        FixedPoint.values 10 p s ⊆ FixedPoint.values 10 P S)) := by
  let narrow : ColumnSchema := { name := "price", dataType := "Decimal(precision=2, scale=0)" }
  constructor
  · intro claim
    have stored := claim [priceColumn, narrow] [narrow] (by decide +kernel) priceColumn
      List.mem_cons_self narrow List.mem_cons_self rfl 10 2 (by decide) (by decide +kernel)
    have shape : storable Library.sample Ssn.asciiDigits (Library.sample.casefold narrow.dataType) =
        FixedPoint.values 10 2 0 := by
      unfold storable
      rw [if_neg (by decide +kernel)]
      have read : decimalShapeOf Library.sample Ssn.asciiDigits
          (Library.sample.casefold narrow.dataType) = some (2, 0) := by decide +kernel
      rw [read]
    rw [shape, FixedPoint.values_subset_iff (by decide) (by decide)] at stored
    omega
  · intro claim
    let none : ColumnSchema := { name := "price", dataType := "Decimal(precision=0, scale=0)" }
    let small : ColumnSchema := { name := "price", dataType := "Decimal(precision=1, scale=2)" }
    have same := claim none small rfl 0 0 1 2 (by decide) (by decide +kernel) (by decide +kernel)
    have contained : FixedPoint.values 10 0 0 ⊆ FixedPoint.values 10 1 2 := by
      rintro _ ⟨k, zero, rfl⟩
      have : k = 0 := by rw [pow_zero, Int.abs_lt_one_iff] at zero; exact zero
      rw [this, Int.cast_zero, zero_div]
      exact FixedPoint.zero_mem (by decide)
    exact absurd (same.2 contained) (by decide +kernel)

end DataMover
