import DataMover.Engine.Transfer

/-!
# Type labels of the two connectors

`inspect_object` labels a column, the extraction gives it a Polars dtype, and the scan compares the
normalised texts of the two.  The label of a Databricks column is the text of its dtype.  A PostgreSQL
label agrees with its dtype exactly when it is a decimal without negative scale or one of
`coherentLabels` (`type_labels_coherent_iff`): a type that only falls through to `String` does not.
-/

namespace DataMover

/-! ## Polars dtypes -/

/-- The dtypes that the connectors extract. -/
inductive PolarsType where
  | string
  | boolean
  | int8
  | int16
  | int32
  | int64
  | float32
  | float64
  | date
  | time
  | binary
  | datetime (utc : Bool)
  | decimal (precision : Option Nat) (scale : Nat)
  deriving DecidableEq

/-- `Decimal(precision=..., scale=...)`. -/
def decimalText (precision scale : String) : String :=
  "Decimal(precision=" ++ precision ++ ", scale=" ++ scale ++ ")"

/-- `str(dtype)`. -/
def PolarsType.str : PolarsType → String
  | string => "String"
  | boolean => "Boolean"
  | int8 => "Int8"
  | int16 => "Int16"
  | int32 => "Int32"
  | int64 => "Int64"
  | float32 => "Float32"
  | float64 => "Float64"
  | date => "Date"
  | time => "Time"
  | binary => "Binary"
  | datetime true => "Datetime(time_unit='us', time_zone='UTC')"
  | datetime false => "Datetime(time_unit='us', time_zone=None)"
  | decimal none scale => decimalText "None" (toString scale)
  | decimal (some precision) scale => decimalText (toString precision) (toString scale)

/-! ## PostgreSQL -/

/-- `part in text`. -/
def occursIn (part text : String) : Bool := decide (part.toList <:+: text.toList)

/-- `text.startswith(start)`. -/
def startsWith (start text : String) : Bool := start.toList.isPrefixOf text.toList

/-- `(\d+|None)` in a folded text. -/
def takeDigitsOrNone (cs : List Char) : Option (Option (List Char) × List Char) :=
  ((takeDigits cs).map fun e => (some e.1, e.2)).or
    (("none".toList.isPrefixOf? cs).map fun rest => (none, rest))

/-- `_DECIMAL.fullmatch(folded)`. -/
def postgresDecimal (folded : String) : Option (Option (List Char) × Option (List Char)) := do
  let rest ← "decimal(precision=".toList.isPrefixOf? folded.toList
  let (precision, rest) ← takeDigitsOrNone rest
  let rest ← [','].isPrefixOf? rest
  let rest ← "scale=".toList.isPrefixOf? (rest.dropWhile isSpace)
  let (scale, rest) ← takeDigitsOrNone rest
  if rest = [')'] then some (precision, scale) else none

/-- The dtype of a decimal label. -/
def decimalType (precision scale : Option (List Char)) : PolarsType :=
  match precision, scale with
  | some precision, some scale =>
    if ¬ (1 ≤ numeral precision ∧ numeral precision ≤ 38) ∨ numeral precision < numeral scale then
      .string
    else .decimal (some (numeral precision)) (numeral scale)
  | _, _ => .string

/-- `_polars_type` of `postgres.py` on a folded label; `anyPrecision` is the precision of
`pl.Decimal(precision=None, ...)`. -/
def postgresPolarsType (anyPrecision : Option Nat) (folded : String) : PolarsType :=
  if occursIn "smallint" folded then .int16
  else if folded ∈ ["integer", "int"] then .int32
  else if occursIn "bigint" folded then .int64
  else if folded ∈ ["real"] then .float32
  else if occursIn "double" folded || occursIn "float" folded then .float64
  else if folded ∈ ["boolean", "bool"] then .boolean
  else if folded = "date" then .date
  else if startsWith "timestamp" folded then .datetime (occursIn "with time zone" folded)
  else if folded = "time with time zone" then .string
  else if startsWith "time" folded then .time
  else if folded = "interval" then .string
  else if folded = "bytea" then .binary
  else match postgresDecimal folded with
    | some (precision, scale) => decimalType precision scale
    | none =>
      if folded ∈ ["numeric", "decimal"] then .string
      else if folded = "money" then .decimal anyPrecision 2
      else .string

/-- A `data_type` of `information_schema.columns`: the name of a type without a modifier, `ARRAY` or
`USER-DEFINED`. -/
structure InformationSchemaType where
  text : String
  ascii : ∀ c ∈ text.toList, c.toNat < 128
  unmodified : '(' ∉ text.toList
  trimmed : strip text = text

/-- A row of `information_schema.columns`; a numeric type has a precision and a scale, or neither. -/
structure InformationSchemaColumn where
  dataType : InformationSchemaType
  numeric : Option (Nat × Int) := none

/-- The precision and the scale that the label shows. -/
def InformationSchemaColumn.shown (column : InformationSchemaColumn) : Option (Nat × Int) :=
  if column.dataType.text ∈ ["numeric", "decimal"] then column.numeric else none

/-- `data_type` of the column in `PostgresConnector.inspect_object`. -/
def InformationSchemaColumn.label (column : InformationSchemaColumn) : String :=
  match column.shown with
  | some (precision, scale) => decimalText (toString precision) (toString scale)
  | none => column.dataType.text

/-! ## Databricks -/

/-- `" ".join(text.split())`. -/
def joinWords (text : String) : String :=
  String.ofList ([' '].intercalate ((text.toList.splitOnP isSpace).filter (· ≠ [])))

/-- `_SQL_TYPES` of `databricks.py`. -/
def sqlTypes : List (String × String) := [
  ("string", "String"), ("varchar", "String"), ("char", "String"), ("boolean", "Boolean"),
  ("tinyint", "Int8"), ("byte", "Int8"), ("smallint", "Int16"), ("short", "Int16"),
  ("int", "Int32"), ("integer", "Int32"), ("long", "Int64"), ("bigint", "Int64"),
  ("float", "Float32"), ("real", "Float32"), ("double", "Float64"), ("date", "Date"),
  ("binary", "Binary"),
  ("timestamp", "Datetime(time_unit='us', time_zone='UTC')"),
  ("timestamp_ltz", "Datetime(time_unit='us', time_zone='UTC')"),
  ("timestamp_ntz", "Datetime(time_unit='us', time_zone=None)"),
  ("timestamp without time zone", "Datetime(time_unit='us', time_zone=None)"),
  ("timestamp with time zone", "Datetime(time_unit='us', time_zone='UTC')")]

/-- `_POLARS_TYPES` of `databricks.py`. -/
def polarsTypes : List (String × PolarsType) := [
  ("String", .string), ("Boolean", .boolean), ("Int8", .int8), ("Int16", .int16),
  ("Int32", .int32), ("Int64", .int64), ("Float32", .float32), ("Float64", .float64),
  ("Date", .date), ("Datetime(time_unit='us')", .datetime false),
  ("Datetime(time_unit='us', time_zone=None)", .datetime false),
  ("Datetime(time_unit='us', time_zone='UTC')", .datetime true), ("Binary", .binary)]

/-- `\s*\(\s*(\d+)\s*,\s*(\d+)\s*\)` after `decimal`. -/
def databricksDecimal (text : String) : Option (List Char × List Char) := do
  let rest ← "decimal".toList.isPrefixOf? text.toList
  let rest ← ['('].isPrefixOf? (rest.dropWhile isSpace)
  let (precision, rest) ← takeDigits (rest.dropWhile isSpace)
  let rest ← [','].isPrefixOf? (rest.dropWhile isSpace)
  let (scale, rest) ← takeDigits (rest.dropWhile isSpace)
  if rest.dropWhile isSpace = [')'] then some (precision, scale) else none

/-- `(?:varchar|char)\s*\(\s*\d+\s*\)`, with the name before the bracket. -/
def lengthModified (text : String) : Option String := do
  let (name, rest) ← (("varchar".toList.isPrefixOf? text.toList).map fun r => ("varchar", r)).or
    (("char".toList.isPrefixOf? text.toList).map fun r => ("char", r))
  let rest ← ['('].isPrefixOf? (rest.dropWhile isSpace)
  let (_, rest) ← takeDigits (rest.dropWhile isSpace)
  if rest.dropWhile isSpace = [')'] then some name else none

/-- `_polars_type` of `databricks.py`; `none` is an unsupported type. -/
def databricksPolarsType (lib : Library) (databricksType : String) : Option String :=
  let normalized := joinWords (lib.casefold databricksType)
  let normalized := (lengthModified normalized).getD normalized
  match databricksDecimal normalized with
  | some (precision, scale) =>
    if ¬ (1 ≤ numeral precision ∧ numeral precision ≤ 38) ∨ numeral precision < numeral scale then
      none
    else some (decimalText (toString (numeral precision)) (toString (numeral scale)))
  | none => sqlTypes.lookup normalized

/-- `Decimal\(precision=(\d+), scale=(\d+)\)`. -/
def decimalTextParts (text : String) : Option (List Char × List Char) := do
  let rest ← "Decimal(precision=".toList.isPrefixOf? text.toList
  let (precision, rest) ← takeDigits rest
  let rest ← ", scale=".toList.isPrefixOf? rest
  let (scale, rest) ← takeDigits rest
  if rest = [')'] then some (precision, scale) else none

/-- `_polars_dtype` of `databricks.py`. -/
def polarsDtype (dataType : String) : Option PolarsType :=
  if startsWith "Decimal(" dataType then
    (decimalTextParts dataType).map fun e => .decimal (some (numeral e.1)) (numeral e.2)
  else polarsTypes.lookup dataType

/-! ## Texts -/

/-- `text.lower()` of an ASCII text. -/
def lowered (text : String) : String := String.ofList (text.toList.map Char.toLower)

/-- Case folding of ASCII texts is lower-casing. -/
def Library.FoldsAscii (lib : Library) : Prop :=
  ∀ text : String, (∀ c ∈ text.toList, c.toNat < 128) → lib.casefold text = lowered text

theorem toList_lowered (text : String) :
    (lowered text).toList = text.toList.map Char.toLower := String.toList_ofList

theorem takeDigits_append {digits : List Char} {c : Char} (rest : List Char)
    (all : ∀ d ∈ digits, d.isDigit = true) (nonempty : digits ≠ []) (stop : c.isDigit = false) :
    takeDigits (digits ++ c :: rest) = some (digits, c :: rest) := by
  unfold takeDigits
  have taken : (digits ++ c :: rest).takeWhile Char.isDigit = digits := by
    rw [List.takeWhile_append_of_pos all, List.takeWhile_cons_of_neg (by simp [stop]),
      List.append_nil]
  simp only [taken, List.isEmpty_iff, nonempty, if_false, List.drop_left]

theorem takeDigits_eq_none {c : Char} (rest : List Char) (stop : c.isDigit = false) :
    takeDigits (c :: rest) = none := by
  simp [takeDigits, stop]

/-- The digits of a numeral. -/
def digits (n : Nat) : List Char := Nat.toDigits 10 n

theorem toList_toString (n : Nat) : (toString n).toList = digits n := by
  rw [Nat.toString_eq_ofList_toDigits, String.toList_ofList]
  rfl

theorem isDigit_digits (n : Nat) : ∀ c ∈ digits n, c.isDigit = true := fun _ hc =>
  Nat.isDigit_of_mem_toDigits (by decide) (by decide) hc

theorem digits_ne_nil (n : Nat) : digits n ≠ [] := Nat.toDigits_ne_nil

theorem numeral_digits (n : Nat) : numeral (digits n) = n := by
  have value := Nat.ofDigitChars_toDigits (b := 10) (n := n) (by decide) (by decide)
  rw [Nat.ofDigitChars_eq_foldl] at value
  exact value

theorem toLower_of_isDigit {c : Char} (h : c.isDigit = true) : c.toLower = c := by
  unfold Char.toLower
  unfold Char.isDigit at h
  rw [dif_neg]
  simp only [Bool.and_eq_true, decide_eq_true_eq] at h
  intro upper
  have low := UInt32.le_iff_toNat_le.1 h.2
  have high := UInt32.le_iff_toNat_le.1 upper.1
  simp at low high
  omega

/-! ## Normalised labels -/

/-- `_normalized_source_type` after folding and stripping. -/
def normalizedValue (value : String) : String :=
  match decimalLabel value with
  | some (precision, scale) =>
    if numeral precision > 38 ∨ numeral scale > numeral precision then "string"
    else "decimal(" ++ String.ofList precision ++ "," ++ String.ofList scale ++ ")"
  | none =>
    if value = "numeric" ∨ value = "decimal" then "string"
    else if ["varchar(", "character varying(", "char(", "character("].any
        fun start => start.toList.isPrefixOf value.toList then "string"
    else (typeAliases.lookup value).getD value

theorem normalizedSourceType_eq (lib : Library) (dataType : String) :
    normalizedSourceType lib dataType = normalizedValue (strip (lib.casefold dataType)) := rfl

/-- Without a bracket only whole words are recognised. -/
def normalizedWord (value : String) : String :=
  if value = "numeric" ∨ value = "decimal" then "string"
  else (typeAliases.lookup value).getD value

theorem decimalLabel_eq_none {value : String} (h : '(' ∉ value.toList) :
    decimalLabel value = none := by
  have suffix : ∀ {start rest : List Char}, start.isPrefixOf? value.toList = some rest →
      '(' ∉ rest := by
    intro start rest hr mem
    rw [List.isPrefixOf?_eq_some_iff_append_eq] at hr
    exact h (hr ▸ List.mem_append_right _ mem)
  have first : ∀ rest : List Char, '(' ∉ rest →
      (precisionScale rest).or (plainPrecisionScale rest) = none := by
    intro rest clean
    have bracket : ∀ (start : List Char) cs, '(' ∉ cs → ('(' :: start).isPrefixOf? cs = none := by
      intro start cs clean
      cases found : ('(' :: start).isPrefixOf? cs with
      | none => rfl
      | some r =>
        rw [List.isPrefixOf?_eq_some_iff_append_eq] at found
        exact absurd (found ▸ List.mem_append_left _ List.mem_cons_self) clean
    have left : precisionScale rest = none := by
      unfold precisionScale
      rw [show "(precision=".toList = '(' :: "precision=".toList from rfl, bracket _ rest clean]
      rfl
    have right : plainPrecisionScale rest = none := by
      unfold plainPrecisionScale
      rw [bracket [] _ fun mem => clean ((List.dropWhile_sublist _).subset mem)]
      rfl
    rw [left, right]
    rfl
  unfold decimalLabel
  cases found : ("decimal".toList.isPrefixOf? value.toList).or
      ("numeric".toList.isPrefixOf? value.toList) with
  | none => rfl
  | some rest =>
    rcases Option.or_eq_some_iff.1 found with hr | ⟨-, hr⟩
    · exact first rest (suffix hr)
    · exact first rest (suffix hr)

theorem normalizedValue_of_word {value : String} (h : '(' ∉ value.toList) :
    normalizedValue value = normalizedWord value := by
  unfold normalizedValue normalizedWord
  rw [decimalLabel_eq_none h]
  have plain : (["varchar(", "character varying(", "char(", "character("].any
      fun start => start.toList.isPrefixOf value.toList) = false := by
    rw [List.any_eq_false]
    intro start mem prefixed
    have sub := (List.isPrefixOf_iff_prefix.1 prefixed).subset
    have bracket : ∀ start ∈ ["varchar(", "character varying(", "char(", "character("],
        '(' ∈ start.toList := by decide
    exact h (sub (bracket start mem))
  simp only [plain, Bool.false_eq_true, if_false]

theorem isSpace_toLower (c : Char) : isSpace c.toLower = isSpace c := by
  rcases toLower_cases c with same | ⟨low, high, lower⟩
  · rw [same]
  · rw [Bool.eq_iff_iff]
    simp only [isSpace, lower, Bool.or_eq_true, Bool.and_eq_true, decide_eq_true_eq]
    omega

theorem toLower_eq_bracket {c : Char} (h : c.toLower = '(') : c = '(' := by
  rcases toLower_cases c with same | ⟨low, high, lower⟩
  · rw [← same, h]
  · rw [h] at lower
    change 40 = c.toNat + 32 at lower
    omega

theorem strip_lowered (text : String) : strip (lowered text) = lowered (strip text) := by
  have spaces : isSpace ∘ Char.toLower = isSpace := funext isSpace_toLower
  unfold strip lowered
  simp only [String.toList_ofList, List.dropWhile_map, spaces, ← List.map_reverse]

/-- The folded label of a type name is a word. -/
theorem InformationSchemaType.folded (T : InformationSchemaType) :
    strip (lowered T.text) = lowered T.text ∧ '(' ∉ (lowered T.text).toList := by
  refine ⟨by rw [strip_lowered, T.trimmed], fun mem => ?_⟩
  rw [toList_lowered] at mem
  obtain ⟨c, hc, lower⟩ := List.mem_map.1 mem
  exact T.unmodified (toLower_eq_bracket lower ▸ hc)

/-! ## Words -/

/-- The words whose dtype has the label that they are normalised to. -/
def coherentLabels : List String := [
  "string", "str", "utf8", "text", "character varying", "varchar", "char", "character", "boolean",
  "bool", "smallint", "integer", "int", "bigint", "real", "double precision", "float64", "date",
  "time", "time without time zone", "time with time zone", "timestamp",
  "timestamp without time zone", "timestamp with time zone", "bytea", "interval", "numeric",
  "decimal"]

/-- The words that one of the two tables knows. -/
def knownWords : List String :=
  typeAliases.map Prod.fst ++ ["numeric", "decimal", "money", "timestamptz"]

/-- The dtypes of words. -/
def wordTypes : List PolarsType := [
  .string, .boolean, .int16, .int32, .int64, .float32, .float64, .date, .time, .binary,
  .datetime true, .datetime false]

section Words

variable {anyPrecision : Option Nat} {word : String}

theorem postgresDecimal_eq_none (h : '(' ∉ word.toList) : postgresDecimal word = none := by
  unfold postgresDecimal
  cases found : "decimal(precision=".toList.isPrefixOf? word.toList with
  | none => rfl
  | some rest =>
    rw [List.isPrefixOf?_eq_some_iff_append_eq] at found
    exact absurd (found ▸ List.mem_append_left rest (by decide)) h

/-- The rows of `_polars_type` after the named types. -/
theorem postgresPolarsType_word (h : '(' ∉ word.toList) (other : word ≠ "money") :
    postgresPolarsType anyPrecision word ∈ wordTypes := by
  have branch : ∀ {p : Prop} [Decidable p] {a b : PolarsType}, a ∈ wordTypes → b ∈ wordTypes →
      (if p then a else b) ∈ wordTypes := by
    intro p _ a b ha hb
    split
    · exact ha
    · exact hb
  have zoned : ∀ utc, PolarsType.datetime utc ∈ wordTypes := by decide
  unfold postgresPolarsType
  rw [postgresDecimal_eq_none h]
  iterate 7 refine branch (by decide) ?_
  refine branch (zoned _) ?_
  iterate 4 refine branch (by decide) ?_
  refine branch (by decide) ?_
  rw [if_neg other]
  decide

theorem postgresPolarsType_anyPrecision (other : word ≠ "money") :
    postgresPolarsType anyPrecision word = postgresPolarsType none word := by
  unfold postgresPolarsType
  rw [if_neg other, if_neg other]

theorem known_words_coherent_iff : ∀ word ∈ knownWords, word ≠ "money" → '(' ∉ word.toList →
    (normalizedWord word =
        normalizedValue (strip (lowered (postgresPolarsType none word).str)) ↔
      word ∈ coherentLabels) := by
  decide +kernel

theorem wordTypes_known : ∀ type ∈ wordTypes,
    normalizedValue (strip (lowered type.str)) ∈ knownWords := by
  decide +kernel

theorem coherentLabels_known : coherentLabels ⊆ knownWords := by
  decide +kernel

theorem normalizedWord_unknown (h : word ∉ knownWords) : normalizedWord word = word := by
  unfold normalizedWord
  simp only [knownWords, List.mem_append, not_or] at h
  rw [if_neg, List.lookup_eq_none_iff.2]
  · rfl
  · intro e he
    rw [bne_iff_ne]
    rintro rfl
    exact h.1 (List.mem_map_of_mem he)
  · rintro (rfl | rfl)
    · exact h.2 (by decide)
    · exact h.2 (by decide)

/-- A word other than `money` agrees with its dtype exactly when it is coherent. -/
theorem words_coherent_iff (h : '(' ∉ word.toList) (other : word ≠ "money") :
    normalizedWord word =
        normalizedValue (strip (lowered (postgresPolarsType anyPrecision word).str)) ↔
      word ∈ coherentLabels := by
  by_cases known : word ∈ knownWords
  · rw [postgresPolarsType_anyPrecision other]
    exact known_words_coherent_iff word known other h
  · rw [normalizedWord_unknown known]
    constructor
    · intro same
      exact absurd (same ▸ wordTypes_known _ (postgresPolarsType_word h other)) known
    · intro coherent
      exact absurd (coherentLabels_known coherent) known

end Words

/-! ## Decimals -/

/-- `decimalText` after folding. -/
def foldedDecimal (precision scale : String) : String :=
  "decimal(precision=" ++ precision ++ ", scale=" ++ scale ++ ")"

/-- Digits and signs. -/
def IsNumeral (text : String) : Prop := ∀ c ∈ text.toList, c = '-' ∨ c.isDigit = true

theorem isNumeral_nat (n : Nat) : IsNumeral (toString n) := by
  intro c hc
  rw [toList_toString] at hc
  exact .inr (isDigit_digits n c hc)

theorem toList_negSucc (n : Nat) : (toString (Int.negSucc n)).toList = '-' :: digits (n + 1) := by
  change ("-" ++ toString (n + 1)).toList = _
  rw [String.toList_append, toList_toString]
  rfl

theorem isNumeral_int : ∀ n : Int, IsNumeral (toString n)
  | .ofNat n => isNumeral_nat n
  | .negSucc n => by
    intro c hc
    rw [toList_negSucc, List.mem_cons] at hc
    exact hc.imp_right (isDigit_digits (n + 1) c)

theorem IsNumeral.toNat_le {text : String} (h : IsNumeral text) :
    ∀ c ∈ text.toList, c.toNat ≤ 57 := by
  intro c hc
  rcases h c hc with rfl | digit
  · decide
  · simp only [Char.isDigit, Bool.and_eq_true, decide_eq_true_eq] at digit
    exact UInt32.le_iff_toNat_le.1 digit.2

theorem IsNumeral.map_toLower {text : String} (h : IsNumeral text) :
    text.toList.map Char.toLower = text.toList := by
  have same : text.toList.map Char.toLower = text.toList.map id := by
    refine List.map_congr_left fun c hc => ?_
    rcases h c hc with rfl | digit
    · decide
    · exact toLower_of_isDigit digit
  rw [same, List.map_id]

theorem join_chunks (start precision scale : List Char) :
    start ++ precision ++ ", scale=".toList ++ scale ++ ")".toList =
      start ++ (precision ++ ',' :: ' ' :: ("scale=".toList ++ (scale ++ [')']))) := by
  have comma : ", scale=".toList = ',' :: ' ' :: "scale=".toList := by decide
  have close : ")".toList = [')'] := by decide
  rw [comma, close]
  simp only [List.append_assoc, List.cons_append]

theorem toList_foldedDecimal (precision scale : String) :
    (foldedDecimal precision scale).toList = "decimal(precision=".toList ++
      (precision.toList ++ ',' :: ' ' :: ("scale=".toList ++ (scale.toList ++ [')']))) := by
  rw [← join_chunks]
  unfold foldedDecimal
  simp only [String.toList_append]

section FoldedDecimals

variable {precision scale : String} (hp : IsNumeral precision) (hs : IsNumeral scale)

include hp hs

theorem lowered_decimalText :
    lowered (decimalText precision scale) = foldedDecimal precision scale := by
  have first : "Decimal(precision=".toList.map Char.toLower = "decimal(precision=".toList := by
    decide
  have second : ", scale=".toList.map Char.toLower = ", scale=".toList := by decide
  have third : ")".toList.map Char.toLower = ")".toList := by decide
  rw [← String.toList_inj, toList_lowered]
  unfold decimalText foldedDecimal
  simp only [String.toList_append, List.map_append, hp.map_toLower, hs.map_toLower, first, second,
    third]

theorem ascii_decimalText : ∀ c ∈ (decimalText precision scale).toList, c.toNat < 128 := by
  have first : ∀ c ∈ "Decimal(precision=".toList, c.toNat < 128 := by simp
  have second : ∀ c ∈ ", scale=".toList, c.toNat < 128 := by simp
  have third : ∀ c ∈ ")".toList, c.toNat < 128 := by simp
  have inPrecision : ∀ c ∈ precision.toList, c.toNat < 128 := fun c hc =>
    (hp.toNat_le c hc).trans_lt (by decide)
  have inScale : ∀ c ∈ scale.toList, c.toNat < 128 := fun c hc =>
    (hs.toNat_le c hc).trans_lt (by decide)
  unfold decimalText
  simp only [String.toList_append, List.forall_mem_append]
  exact ⟨⟨⟨⟨first, inPrecision⟩, second⟩, inScale⟩, third⟩

theorem letter_notMem_foldedDecimal {c : Char} (large : 57 < c.toNat)
    (other : c ∉ "decimal(precision=, scale=)".toList) :
    c ∉ (foldedDecimal precision scale).toList := by
  rw [toList_foldedDecimal]
  have parts : c ∉ "decimal(precision=".toList ∧ c ∉ [',', ' '] ∧ c ∉ "scale=".toList ∧
      c ∉ [')'] := by
    refine ⟨?_, ?_, ?_, ?_⟩
    all_goals exact fun mem => other (List.Subset.trans (List.Subset.refl _) (by decide) mem)
  simp only [List.mem_append, List.mem_cons, not_or] at parts ⊢
  have inPrecision : c ∉ precision.toList := fun mem => by
    have := hp.toNat_le c mem
    omega
  have inScale : c ∉ scale.toList := fun mem => by
    have := hs.toNat_le c mem
    omega
  tauto

end FoldedDecimals

theorem bracket_mem_foldedDecimal (precision scale : String) :
    '(' ∈ (foldedDecimal precision scale).toList := by
  rw [toList_foldedDecimal]
  exact List.mem_append_left _ (by decide)

theorem strip_of_ends {text : String} {c d : Char} {cs ds : List Char}
    (front : text.toList = c :: cs) (back : text.toList = ds ++ [d]) (hc : isSpace c = false)
    (hd : isSpace d = false) : strip text = text := by
  unfold strip
  rw [front, List.dropWhile_cons_of_neg (by simp [hc]), ← front, back, List.reverse_concat,
    List.dropWhile_cons_of_neg (by simp [hd]), ← List.reverse_concat, List.reverse_reverse, ← back,
    String.ofList_toList]

/-- The label of a decimal starts with a letter and ends with a bracket. -/
theorem strip_foldedDecimal (precision scale : String) :
    strip (foldedDecimal precision scale) = foldedDecimal precision scale := by
  have letter : "decimal(precision=".toList = 'd' :: "ecimal(precision=".toList := by decide
  have close : ")".toList = [')'] := by decide
  have front := toList_foldedDecimal precision scale
  rw [letter, List.cons_append] at front
  have back := String.toList_append (s := "decimal(precision=" ++ precision ++ ", scale=" ++ scale)
    (t := ")")
  rw [close] at back
  exact strip_of_ends front back (by decide) (by decide)

theorem isPrefixOf?_append (start rest : List Char) :
    start.isPrefixOf? (start ++ rest) = some rest :=
  List.isPrefixOf?_eq_some_iff_append_eq.2 rfl

theorem isPrefixOf?_cons_ne {c d : Char} (start rest : List Char) (h : c ≠ d) :
    (c :: start).isPrefixOf? (d :: rest) = none := by
  simp [List.isPrefixOf?, h]

theorem takeDigits_digits {c : Char} (n : Nat) (rest : List Char) (stop : c.isDigit = false) :
    takeDigits (digits n ++ c :: rest) = some (digits n, c :: rest) :=
  takeDigits_append rest (isDigit_digits n) (digits_ne_nil n) stop

theorem takeDigitsOrNone_digits {c : Char} (n : Nat) (rest : List Char) (stop : c.isDigit = false) :
    takeDigitsOrNone (digits n ++ c :: rest) = some (some (digits n), c :: rest) := by
  unfold takeDigitsOrNone
  rw [takeDigits_digits n rest stop]
  rfl

theorem takeDigitsOrNone_minus (rest : List Char) : takeDigitsOrNone ('-' :: rest) = none := by
  unfold takeDigitsOrNone
  rw [takeDigits_eq_none rest (by decide)]
  rw [show "none".toList = 'n' :: "one".toList by decide, isPrefixOf?_cons_ne _ _ (by decide)]
  rfl

theorem prefix_comma (rest : List Char) : [','].isPrefixOf? (',' :: rest) = some rest :=
  isPrefixOf?_append [','] rest

/-- The parts of a folded decimal up to its scale. -/
theorem dropWhile_scale (rest : List Char) :
    "scale=".toList.isPrefixOf? ((' ' :: ("scale=".toList ++ rest)).dropWhile isSpace) =
      some rest := by
  have letter : "scale=".toList = 's' :: "cale=".toList := by decide
  rw [List.dropWhile_cons_of_pos (by decide), letter, List.cons_append,
    List.dropWhile_cons_of_neg (by decide), ← List.cons_append]
  exact isPrefixOf?_append _ rest

theorem postgresDecimal_nat (p s : Nat) :
    postgresDecimal (foldedDecimal (toString p) (toString s)) =
      some (some (digits p), some (digits s)) := by
  unfold postgresDecimal
  rw [toList_foldedDecimal, toList_toString, toList_toString, isPrefixOf?_append]
  simp only [Option.bind_eq_bind, Option.bind_some]
  rw [takeDigitsOrNone_digits p _ (by decide)]
  simp only [Option.bind_some]
  rw [prefix_comma]
  simp only [Option.bind_some]
  rw [dropWhile_scale]
  simp only [Option.bind_some]
  rw [takeDigitsOrNone_digits s _ (by decide)]
  rfl

theorem postgresDecimal_negSucc (p n : Nat) :
    postgresDecimal (foldedDecimal (toString p) (toString (Int.negSucc n))) = none := by
  unfold postgresDecimal
  rw [toList_foldedDecimal, toList_toString, toList_negSucc, isPrefixOf?_append]
  simp only [Option.bind_eq_bind, Option.bind_some]
  rw [takeDigitsOrNone_digits p _ (by decide)]
  simp only [Option.bind_some]
  rw [prefix_comma]
  simp only [Option.bind_some]
  rw [dropWhile_scale]
  simp only [Option.bind_some, List.cons_append]
  rw [takeDigitsOrNone_minus]
  rfl

/-- What `_normalized_source_type` reads after `decimal`. -/
theorem decimalLabel_folded {precision scale : String} {rest : List Char}
    (h : rest = "(precision=".toList ++
      (precision.toList ++ ',' :: ' ' :: ("scale=".toList ++ (scale.toList ++ [')'])))) :
    decimalLabel (foldedDecimal precision scale) =
      (precisionScale rest).or (plainPrecisionScale rest) := by
  have split : "decimal(precision=".toList = "decimal".toList ++ "(precision=".toList := by
    decide
  unfold decimalLabel
  rw [toList_foldedDecimal, split, List.append_assoc, ← h, isPrefixOf?_append, Option.some_or]
  rfl

theorem precisionScale_nat (p s : Nat) :
    precisionScale ("(precision=".toList ++
      (digits p ++ ',' :: ' ' :: ("scale=".toList ++ (digits s ++ [')'])))) =
      some (digits p, digits s) := by
  unfold precisionScale
  rw [isPrefixOf?_append]
  simp only [Option.bind_eq_bind, Option.bind_some]
  rw [takeDigits_digits p _ (by decide)]
  simp only [Option.bind_some]
  rw [prefix_comma]
  simp only [Option.bind_some]
  rw [dropWhile_scale]
  simp only [Option.bind_some]
  rw [takeDigits_digits s _ (by decide)]
  rfl

theorem precisionScale_minus (p : Nat) (rest : List Char) :
    precisionScale ("(precision=".toList ++
      (digits p ++ ',' :: ' ' :: ("scale=".toList ++ '-' :: rest))) = none := by
  unfold precisionScale
  rw [isPrefixOf?_append]
  simp only [Option.bind_eq_bind, Option.bind_some]
  rw [takeDigits_digits p _ (by decide)]
  simp only [Option.bind_some]
  rw [prefix_comma]
  simp only [Option.bind_some]
  rw [dropWhile_scale]
  simp only [Option.bind_some]
  rw [takeDigits_eq_none _ (by decide)]
  rfl

theorem plainPrecisionScale_keyword (rest : List Char) :
    plainPrecisionScale ("(precision=".toList ++ rest) = none := by
  have letters : "(precision=".toList = '(' :: 'p' :: "recision=".toList := by decide
  unfold plainPrecisionScale
  rw [letters, List.cons_append, List.dropWhile_cons_of_neg (by decide)]
  rw [show ∀ rest, ['('].isPrefixOf? ('(' :: rest) = some rest from isPrefixOf?_append ['(']]
  simp only [Option.bind_eq_bind, Option.bind_some, List.cons_append]
  rw [takeDigits_eq_none _ (by decide)]
  rfl

theorem decimalLabel_nat (p s : Nat) :
    decimalLabel (foldedDecimal (toString p) (toString s)) = some (digits p, digits s) := by
  rw [decimalLabel_folded rfl, toList_toString, toList_toString, precisionScale_nat,
    Option.some_or]

theorem decimalLabel_negSucc (p n : Nat) :
    decimalLabel (foldedDecimal (toString p) (toString (Int.negSucc n))) = none := by
  rw [decimalLabel_folded rfl, toList_toString, toList_negSucc, List.cons_append,
    precisionScale_minus, plainPrecisionScale_keyword]
  rfl

/-- The normal form of a decimal that is not text. -/
def normalDecimal (p s : Nat) : String :=
  "decimal(" ++ String.ofList (digits p) ++ "," ++ String.ofList (digits s) ++ ")"

theorem normalizedValue_nat (p s : Nat) :
    normalizedValue (foldedDecimal (toString p) (toString s)) =
      if p > 38 ∨ s > p then "string" else normalDecimal p s := by
  unfold normalizedValue
  rw [decimalLabel_nat]
  simp only [numeral_digits]
  rfl

theorem bracket_mem_normalDecimal (p s : Nat) : '(' ∈ (normalDecimal p s).toList := by
  unfold normalDecimal
  simp only [String.toList_append, List.mem_append]
  exact .inl (.inl (.inl (.inl (by decide))))

/-- A decimal with a negative scale is normalised to itself. -/
theorem normalizedValue_negSucc (p n : Nat) :
    normalizedValue (foldedDecimal (toString p) (toString (Int.negSucc n))) =
      foldedDecimal (toString p) (toString (Int.negSucc n)) := by
  have bracket := bracket_mem_foldedDecimal (toString p) (toString (Int.negSucc n))
  have chunks := toList_foldedDecimal (toString p) (toString (Int.negSucc n))
  unfold normalizedValue
  rw [decimalLabel_negSucc]
  generalize foldedDecimal (toString p) (toString (Int.negSucc n)) = value at bracket chunks ⊢
  have starts : "decimal(precision=".toList <+: value.toList := chunks ▸ List.prefix_append _ _
  have numeric : ¬ (value = "numeric" ∨ value = "decimal") := by
    rintro (rfl | rfl)
    · exact absurd bracket (by decide)
    · exact absurd bracket (by decide)
  have modified : (["varchar(", "character varying(", "char(", "character("].any
      fun start => start.toList.isPrefixOf value.toList) = false := by
    have letter : "decimal(precision=".toList = 'd' :: "ecimal(precision=".toList := by decide
    rw [chunks, letter, List.cons_append]
    simp [List.isPrefixOf]
  have unknown : typeAliases.lookup value = none := by
    have none : ∀ e ∈ typeAliases, ¬ "decimal(precision=".toList <+: e.1.toList := by
      decide
    refine List.lookup_eq_none_iff.2 fun e he => ?_
    rw [bne_iff_ne]
    rintro rfl
    exact none e he starts
  simp only [numeric, modified, unknown, if_false, Bool.false_eq_true, Option.getD_none]

section DecimalLabels

variable {anyPrecision : Option Nat}

/-- A label with a bracket and without `t` and `b` is read as a decimal. -/
theorem postgresPolarsType_decimal {label : String} (bracket : '(' ∈ label.toList)
    (noT : 't' ∉ label.toList) (noB : 'b' ∉ label.toList) :
    postgresPolarsType anyPrecision label =
      match postgresDecimal label with
      | some (precision, scale) => decimalType precision scale
      | none => .string := by
  have lacks : ∀ {part : String} {c : Char}, c ∉ label.toList → c ∈ part.toList →
      ¬ occursIn part label = true := by
    intro part c absent mem
    rw [occursIn, decide_eq_true_eq]
    exact fun infixed => absent (infixed.subset mem)
  have unstarted : ∀ {start : String}, 't' ∈ start.toList → ¬ startsWith start label = true :=
    fun mem prefixed => noT ((List.isPrefixOf_iff_prefix.1 prefixed).subset mem)
  have floats : ¬ (occursIn "double" label || occursIn "float" label) = true := by
    rw [Bool.or_eq_true, not_or]
    exact ⟨lacks noB (by decide), lacks noT (by decide)⟩
  have other : ∀ {word : String}, '(' ∉ word.toList → label ≠ word := by
    rintro word clean rfl
    exact clean bracket
  have others : ∀ {words : List String}, (∀ word ∈ words, '(' ∉ word.toList) → label ∉ words :=
    fun clean mem => clean label mem bracket
  unfold postgresPolarsType
  rw [if_neg (lacks noT (by decide)), if_neg (others (by decide)),
    if_neg (lacks noT (by decide)), if_neg (others (by decide)), if_neg floats,
    if_neg (others (by decide)), if_neg (other (by decide)), if_neg (unstarted (by decide)),
    if_neg (other (by decide)), if_neg (unstarted (by decide)), if_neg (other (by decide)),
    if_neg (other (by decide)), if_neg (others (by decide)), if_neg (other (by decide))]

theorem postgresPolarsType_nat (p s : Nat) :
    postgresPolarsType anyPrecision (foldedDecimal (toString p) (toString s)) =
      if ¬ (1 ≤ p ∧ p ≤ 38) ∨ p < s then .string else .decimal (some p) s := by
  have hp := isNumeral_nat p
  have hs := isNumeral_nat s
  rw [postgresPolarsType_decimal (bracket_mem_foldedDecimal _ _)
    (letter_notMem_foldedDecimal hp hs (by decide) (by decide))
    (letter_notMem_foldedDecimal hp hs (by decide) (by decide)), postgresDecimal_nat]
  simp only [decimalType, numeral_digits]

theorem postgresPolarsType_negSucc (p n : Nat) :
    postgresPolarsType anyPrecision
      (foldedDecimal (toString p) (toString (Int.negSucc n))) = .string := by
  have hp := isNumeral_nat p
  have hs := isNumeral_int (Int.negSucc n)
  rw [postgresPolarsType_decimal (bracket_mem_foldedDecimal _ _)
    (letter_notMem_foldedDecimal hp hs (by decide) (by decide))
    (letter_notMem_foldedDecimal hp hs (by decide) (by decide)), postgresDecimal_negSucc]

end DecimalLabels

/-! ## Agreement -/

section Agreement

variable {lib : Library} (folds : lib.FoldsAscii)

include folds

theorem normalizedSourceType_decimalText {precision scale : String} (hp : IsNumeral precision)
    (hs : IsNumeral scale) :
    normalizedSourceType lib (decimalText precision scale) =
      normalizedValue (foldedDecimal precision scale) := by
  rw [normalizedSourceType_eq, folds _ (ascii_decimalText hp hs), lowered_decimalText hp hs,
    strip_foldedDecimal]

theorem normalizedSourceType_wordType {type : PolarsType} (h : type ∈ wordTypes) :
    normalizedSourceType lib type.str = normalizedValue (strip (lowered type.str)) := by
  have ascii : (wordTypes.all fun type => type.str.toList.all fun c => decide (c.toNat < 128)) =
      true := by decide
  rw [List.all_eq_true] at ascii
  have letters := List.all_eq_true.1 (ascii type h)
  rw [normalizedSourceType_eq, folds _ fun c hc => of_decide_eq_true (letters c hc)]

theorem normalizedSourceType_string :
    normalizedSourceType lib PolarsType.string.str = "string" := by
  have value : normalizedValue (strip (lowered PolarsType.string.str)) = "string" := by
    decide
  rw [normalizedSourceType_wordType folds (by decide), value]

theorem normalizedSourceType_decimal (p s : Nat) :
    normalizedSourceType lib (PolarsType.decimal (some p) s).str =
      if p > 38 ∨ s > p then "string" else normalDecimal p s := by
  change normalizedSourceType lib (decimalText (toString p) (toString s)) = _
  rw [normalizedSourceType_decimalText folds (isNumeral_nat p) (isNumeral_nat s),
    normalizedValue_nat]

omit folds in
theorem normalDecimal_ne {p s : Nat} {word : String} (h : '(' ∉ word.toList) :
    normalDecimal p s ≠ word := by
  rintro rfl
  exact h (bracket_mem_normalDecimal p s)

/-- The dtype of the label. -/
def InformationSchemaColumn.polarsType (lib : Library) (anyPrecision : Option Nat)
    (column : InformationSchemaColumn) : PolarsType :=
  postgresPolarsType anyPrecision (lib.casefold column.label)

theorem nat_coherent_iff {anyPrecision : Option Nat} (p s : Nat) :
    normalizedSourceType lib (decimalText (toString p) (toString s)) =
        normalizedSourceType lib
          (postgresPolarsType anyPrecision
            (lib.casefold (decimalText (toString p) (toString s)))).str ↔
      0 < p ∨ 0 < s := by
  have hp := isNumeral_nat p
  have hs := isNumeral_nat s
  rw [normalizedSourceType_decimalText folds hp hs, normalizedValue_nat,
    folds _ (ascii_decimalText hp hs), lowered_decimalText hp hs, postgresPolarsType_nat]
  by_cases text : ¬ (1 ≤ p ∧ p ≤ 38) ∨ p < s
  · rw [if_pos text, normalizedSourceType_string folds]
    by_cases wide : p > 38 ∨ s > p
    · rw [if_pos wide]
      exact ⟨fun _ => by omega, fun _ => rfl⟩
    · rw [if_neg wide]
      exact ⟨fun same => absurd same (normalDecimal_ne (by decide)), fun _ => by omega⟩
  · rw [if_neg text, normalizedSourceType_decimal folds]
    exact ⟨fun _ => by omega, fun _ => rfl⟩

theorem negSucc_incoherent {anyPrecision : Option Nat} (p n : Nat) :
    normalizedSourceType lib (decimalText (toString p) (toString (Int.negSucc n))) ≠
      normalizedSourceType lib
        (postgresPolarsType anyPrecision
          (lib.casefold (decimalText (toString p) (toString (Int.negSucc n))))).str := by
  have hp := isNumeral_nat p
  have hs := isNumeral_int (Int.negSucc n)
  rw [normalizedSourceType_decimalText folds hp hs, normalizedValue_negSucc,
    folds _ (ascii_decimalText hp hs), lowered_decimalText hp hs, postgresPolarsType_negSucc,
    normalizedSourceType_string folds]
  intro same
  have bracket := bracket_mem_foldedDecimal (toString p) (toString (Int.negSucc n))
  rw [same] at bracket
  exact absurd bracket (by decide)

/-- `money` is not a decimal label, its dtype is. -/
theorem money_incoherent {anyPrecision : Option Nat} :
    normalizedValue "money" ≠
      normalizedSourceType lib (postgresPolarsType anyPrecision "money").str := by
  have label : normalizedValue "money" = "money" := by decide
  have type : postgresPolarsType anyPrecision "money" = .decimal anyPrecision 2 := by
    unfold postgresPolarsType
    iterate 12 rw [if_neg (by decide)]
    rw [postgresDecimal_eq_none (by decide)]
    exact (if_neg (by decide)).trans (if_pos rfl)
  rw [label, type]
  cases anyPrecision with
  | none =>
    have ascii : ((PolarsType.decimal none 2).str.toList.all fun c => decide (c.toNat < 128)) =
        true := by decide
    have letters := List.all_eq_true.1 ascii
    rw [normalizedSourceType_eq, folds _ fun c hc => of_decide_eq_true (letters c hc)]
    decide
  | some p =>
    rw [normalizedSourceType_decimal folds]
    split
    · decide
    · exact (normalDecimal_ne (by decide)).symm

/-- A word agrees with its dtype exactly when it is coherent. -/
theorem word_coherent_iff {anyPrecision : Option Nat} (type : InformationSchemaType) :
    normalizedSourceType lib type.text =
        normalizedSourceType lib (postgresPolarsType anyPrecision (lib.casefold type.text)).str ↔
      lowered type.text ∈ coherentLabels := by
  obtain ⟨trimmed, clean⟩ := type.folded
  rw [normalizedSourceType_eq, folds _ type.ascii, trimmed]
  by_cases money : lowered type.text = "money"
  · rw [money]
    exact ⟨fun same => absurd same (money_incoherent folds), fun mem => absurd mem (by decide)⟩
  · rw [normalizedSourceType_wordType folds (postgresPolarsType_word clean money),
      normalizedValue_of_word clean]
    exact words_coherent_iff clean money

end Agreement

/-- The label agrees with the dtype of the extraction. -/
def InformationSchemaColumn.Coherent (column : InformationSchemaColumn) : Prop :=
  match column.shown with
  | some (precision, scale) => 0 ≤ scale ∧ (0 < precision ∨ 0 < scale)
  | none => lowered column.dataType.text ∈ coherentLabels

theorem label_coherent_iff {lib : Library} (folds : lib.FoldsAscii) (anyPrecision : Option Nat)
    (column : InformationSchemaColumn) :
    normalizedSourceType lib column.label =
        normalizedSourceType lib (column.polarsType lib anyPrecision).str ↔ column.Coherent := by
  unfold InformationSchemaColumn.polarsType InformationSchemaColumn.label
    InformationSchemaColumn.Coherent
  cases shown : column.shown with
  | none => exact word_coherent_iff folds column.dataType
  | some numeric =>
    obtain ⟨p, scale⟩ := numeric
    cases scale with
    | ofNat s =>
      refine (nat_coherent_iff folds p s).trans ?_
      simp only [Int.ofNat_eq_natCast]
      omega
    | negSucc n =>
      refine ⟨fun same => absurd same (negSucc_incoherent folds p n), fun coherent => ?_⟩
      exact absurd coherent.1 (by omega)

/-! ## Databricks labels -/

theorem sqlTypes_labels : ∀ e ∈ sqlTypes,
    (polarsDtype e.2).map PolarsType.str = some e.2 := by
  decide

theorem toList_decimalText (precision scale : String) :
    (decimalText precision scale).toList = "Decimal(precision=".toList ++
      (precision.toList ++ ',' :: ' ' :: ("scale=".toList ++ (scale.toList ++ [')']))) := by
  rw [← join_chunks]
  unfold decimalText
  simp only [String.toList_append]

theorem prefix_scale (rest : List Char) :
    ", scale=".toList.isPrefixOf? (',' :: ' ' :: ("scale=".toList ++ rest)) = some rest := by
  have comma : ", scale=".toList = ',' :: ' ' :: "scale=".toList := by decide
  rw [comma]
  exact isPrefixOf?_append (',' :: ' ' :: "scale=".toList) rest

theorem decimalTextParts_nat (p s : Nat) :
    decimalTextParts (decimalText (toString p) (toString s)) = some (digits p, digits s) := by
  unfold decimalTextParts
  rw [toList_decimalText, toList_toString, toList_toString, isPrefixOf?_append]
  simp only [Option.bind_eq_bind, Option.bind_some]
  rw [takeDigits_digits p _ (by decide)]
  simp only [Option.bind_some]
  rw [prefix_scale]
  simp only [Option.bind_some]
  rw [takeDigits_digits s _ (by decide)]
  rfl

theorem polarsDtype_decimalText (p s : Nat) :
    polarsDtype (decimalText (toString p) (toString s)) = some (.decimal (some p) s) := by
  have start : startsWith "Decimal(" (decimalText (toString p) (toString s)) = true := by
    have split : "Decimal(precision=".toList = "Decimal(".toList ++ "precision=".toList := by
      decide
    rw [startsWith, toList_decimalText, split, List.append_assoc, List.isPrefixOf_iff_prefix]
    exact List.prefix_append _ _
  unfold polarsDtype
  rw [if_pos start, decimalTextParts_nat, Option.map_some, numeral_digits, numeral_digits]

/-- The label of a Databricks column is the text of its dtype. -/
theorem databricks_label {lib : Library} {databricksType label : String}
    (h : databricksPolarsType lib databricksType = some label) :
    ∃ dtype, polarsDtype label = some dtype ∧ dtype.str = label := by
  unfold databricksPolarsType at h
  simp only at h
  split at h
  · split at h
    · cases h
    · cases h
      exact ⟨_, polarsDtype_decimalText _ _, rfl⟩
  · obtain ⟨before, after, table, -⟩ := List.lookup_eq_some_iff.1 h
    have mem := sqlTypes_labels (_, label) (table ▸ List.mem_append_right before List.mem_cons_self)
    exact Option.map_eq_some_iff.1 mem

/-- The type labels of both connectors: every Databricks label agrees with its dtype, a PostgreSQL
label exactly when it is coherent. -/
theorem type_labels_coherent_iff (lib : Library) (folds : lib.FoldsAscii)
    (anyPrecision : Option Nat) :
    (∀ column : InformationSchemaColumn,
      normalizedSourceType lib column.label =
          normalizedSourceType lib (column.polarsType lib anyPrecision).str ↔ column.Coherent) ∧
    (∀ databricksType label, databricksPolarsType lib databricksType = some label →
      ∃ dtype, polarsDtype label = some dtype ∧
        normalizedSourceType lib label = normalizedSourceType lib dtype.str) := by
  refine ⟨label_coherent_iff folds anyPrecision, fun databricksType label h => ?_⟩
  obtain ⟨dtype, found, text⟩ := databricks_label h
  exact ⟨dtype, found, by rw [text]⟩

theorem Library.sample_folds : Library.sample.FoldsAscii := fun _ _ => rfl

theorem numeric_plain : (∀ c ∈ "numeric".toList, c.toNat < 128) ∧ '(' ∉ "numeric".toList ∧
    strip "numeric" = "numeric" := ⟨by simp, by decide, by decide⟩

/-- A `numeric(10, 2)` column. -/
def InformationSchemaColumn.price : InformationSchemaColumn where
  dataType := ⟨"numeric", numeric_plain.1, numeric_plain.2.1, numeric_plain.2.2⟩
  numeric := some (10, 2)

theorem InformationSchemaColumn.price_coherent : InformationSchemaColumn.price.Coherent := by
  have shown : InformationSchemaColumn.price.shown = some (10, 2) := if_pos List.mem_cons_self
  unfold InformationSchemaColumn.Coherent
  rw [shown]
  exact ⟨by decide, .inl (by decide)⟩

theorem type_labels_coherent_iff_price :
    normalizedSourceType Library.sample InformationSchemaColumn.price.label =
      normalizedSourceType Library.sample
        (InformationSchemaColumn.price.polarsType Library.sample none).str :=
  ((type_labels_coherent_iff Library.sample Library.sample_folds none).1
    InformationSchemaColumn.price).2 InformationSchemaColumn.price_coherent

theorem uuid_plain : (∀ c ∈ "uuid".toList, c.toNat < 128) ∧ '(' ∉ "uuid".toList ∧
    strip "uuid" = "uuid" := ⟨by simp, by decide, by decide⟩

/-- A column of a type without a dtype of its own. -/
def InformationSchemaColumn.identifier : InformationSchemaColumn where
  dataType := ⟨"uuid", uuid_plain.1, uuid_plain.2.1, uuid_plain.2.2⟩

/-- The dtype of a `uuid` column falls through to `String`, its label stays `uuid`. -/
theorem uuid_label_differs :
    InformationSchemaColumn.identifier.label = "uuid" ∧
      InformationSchemaColumn.identifier.polarsType Library.sample none = .string ∧
      normalizedSourceType Library.sample InformationSchemaColumn.identifier.label ≠
        normalizedSourceType Library.sample
          (InformationSchemaColumn.identifier.polarsType Library.sample none).str := by
  refine ⟨?_, ?_, ?_⟩
  · decide
  · decide
  · decide

end DataMover
