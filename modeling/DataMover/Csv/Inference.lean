import DataMover.Engine.Transfer
import DataMover.Text.Numbers

/-!
# Type inference for CSV files

`csv_inference.py`: the type of a cell, the running facts about a column (the types of its cells, the
largest number of integer and of fractional digits), and the profile of a file.  Rows without cells and
rows of blank cells do not count; a row of another width, a long cell or a decimal column that is too
wide is refused.
-/

namespace DataMover

namespace Csv

/-! ## Parsers of the standard library -/

/-- Four digits, a minus, two digits, a minus and two digits. -/
def datePrefix (cs : List Char) : Option (List Char) :=
  match cs with
  | y₁ :: y₂ :: y₃ :: y₄ :: s :: m₁ :: m₂ :: t :: d₁ :: d₂ :: rest =>
    if [y₁, y₂, y₃, y₄, m₁, m₂, d₁, d₂].all Char.isDigit ∧ s = '-' ∧ t = '-' then some rest else none
  | _ => none

/-- `_DATE_PATTERN`. -/
def datePattern (value : String) : Bool := datePrefix value.toList = some []

/-- The functions of Python's library that the inference calls. -/
structure CsvLibrary where
  /-- `text.casefold()`. -/
  casefold : String → String
  /-- Whether `date.fromisoformat(text)` returns. -/
  dateFromIsoformat : String → Bool
  /-- `datetime.fromisoformat(text).tzinfo is not None`; `none` is a `ValueError`. -/
  datetimeFromIsoformat : String → Option Bool
  /-- `time.fromisoformat(text).tzinfo is not None`; `none` is a `ValueError`. -/
  timeFromIsoformat : String → Option Bool
  /-- A date is a datetime at midnight, without an offset. -/
  datetime_of_date : ∀ text, datePattern text = true → dateFromIsoformat text = true →
    datetimeFromIsoformat text = some false

/-! ## Types of cells -/

/-- The names that `_value_type` and `_merge_types` return. -/
inductive CsvType where
  | boolean
  | integer
  | decimal
  | date
  | time
  | datetime
  | datetimeTz
  | text
  | empty
  deriving DecidableEq

/-- `[0-9]{2}`. -/
def twoDigits : List Char → Option (List Char)
  | a :: b :: rest => if a.isDigit ∧ b.isDigit then some rest else none
  | _ => none

/-- `(?:Z|[+-][0-9]{2}(?::?[0-9]{2})?)?$`. -/
def offsetPattern : List Char → Bool
  | [] => true
  | c :: rest =>
    if c = 'Z' then rest = []
    else if c = '+' ∨ c = '-' then
      match twoDigits rest with
      | some [] => true
      | some (c :: rest) => twoDigits (if c = ':' then rest else c :: rest) = some []
      | none => false
    else false

/-- `(?:\.[0-9]+)?` and the offset. -/
def fractionPattern : List Char → Bool
  | [] => true
  | c :: rest =>
    if c = '.' then
      (rest.takeWhile Char.isDigit ≠ []) && offsetPattern (rest.dropWhile Char.isDigit)
    else offsetPattern (c :: rest)

/-- `(?::[0-9]{2}(?:\.[0-9]+)?)?` and the offset. -/
def secondsPattern : List Char → Bool
  | [] => true
  | c :: rest =>
    if c = ':' then
      match twoDigits rest with
      | some rest => fractionPattern rest
      | none => false
    else offsetPattern (c :: rest)

/-- `_DATETIME_PATTERN`. -/
def datetimePattern (value : String) : Bool :=
  match datePrefix value.toList with
  | some (separator :: rest) =>
    (separator = 'T' || separator = ' ') &&
      match twoDigits rest with
      | some (c :: rest) => c = ':' && (twoDigits rest).elim false secondsPattern
      | _ => false
  | _ => false

/-- `_PADDED_NUMBER_PATTERN`. -/
def paddedNumberPattern (cs : List Char) : Bool :=
  match (optionalSign cs).2 with
  | c :: rest =>
    c = '0' && rest.takeWhile Char.isDigit ≠ [] &&
      match rest.dropWhile Char.isDigit with
      | stop :: _ => stop = '.' || stop = 'e' || stop = 'E'
      | [] => false
  | [] => false

/-- `value.lstrip("+-")`. -/
def stripSigns (cs : List Char) : List Char := cs.dropWhile fun c => c = '+' || c = '-'

/-- `value.replace("Z", "+00:00")`. -/
def expandZulu (value : String) : String :=
  String.ofList (value.toList.flatMap fun c => if c = 'Z' then "+00:00".toList else [c])

def maxCsvDecimalPrecision : Nat := 38

/-- The part of `_value_type` after the numeric patterns. -/
def temporalType (lib : CsvLibrary) (value : String) : CsvType :=
  if datetimePattern value then
    match lib.datetimeFromIsoformat (expandZulu value) with
    | some aware => if aware then .datetimeTz else .datetime
    | none => .text
  else if datePattern value then
    if lib.dateFromIsoformat value then .date else .text
  else if ':' ∉ value.toList then .text
  else
    match lib.timeFromIsoformat value with
    | some aware => if aware then .text else .time
    | none => .text

/-- The part of `_value_type` after the pattern of integers. -/
def decimalOrTemporalType (lib : CsvLibrary) (value : String) : CsvType :=
  match decimalSpelling asciiDigit value.toList with
  | some _ => if paddedNumberPattern value.toList then .text else .decimal
  | none => temporalType lib value

/-- `_value_type`. -/
def valueType (lib : CsvLibrary) (value : String) : CsvType :=
  if lib.casefold value = "true" ∨ lib.casefold value = "false" then .boolean
  else
    let integerValue := stripSigns value.toList
    match integerSpelling asciiDigit value.toList with
    | some n =>
      if 1 < integerValue.length ∧ integerValue.head? = some '0' then
        decimalOrTemporalType lib value
      else if maxCsvDecimalPrecision < integerValue.length then .text
      else if -2 ^ 63 ≤ n.toInt ∧ n.toInt < 2 ^ 63 then .integer
      else .decimal
    | none => decimalOrTemporalType lib value

/-! ## Columns -/

/-- The running facts about a column. -/
structure ColumnScan where
  types : Finset CsvType := ∅
  populated : Nat := 0
  nulls : Nat := 0
  sampleText : String := ""
  integerDigits : Nat := 0
  decimalScale : Nat := 0

/-- `Decimal(value).as_tuple()` of a text that matched a numeric pattern, which has ASCII digits only. -/
def decimalTuple (value : String) : Option PyDecimal :=
  (numericSpelling asciiDigit value.toList).bind Numeral.decimal

/-- The type of a cell, with its integer digits and its scale when it is a number. -/
def cellFacts (lib : CsvLibrary) (value : String) : CsvType × Nat × Nat :=
  let type := valueType lib value
  if type = .integer ∨ type = .decimal then
    match decimalTuple value with
    | some (.finite _ coefficient exponent) =>
      (type, (digitCount coefficient + exponent).toNat, (-exponent).toNat)
    | _ => (.text, 0, 0)
  else (type, 0, 0)

/-- One cell of `profile_csv_rows`; the error is the text of a `ValueError`. -/
def ColumnScan.cell (lib : CsvLibrary) (maxCellCharacters : Nat) (scan : ColumnScan) (raw : String) :
    Except String ColumnScan :=
  let value := strip raw
  if maxCellCharacters < value.toList.length then .error "A CSV cell exceeds the 128 KB limit."
  else if value = "" then .ok { scan with nulls := scan.nulls + 1 }
  else
    let (type, integerDigits, scale) := cellFacts lib value
    .ok { scan with
      populated := scan.populated + 1
      types := insert type scan.types
      integerDigits := max scan.integerDigits integerDigits
      decimalScale := max scan.decimalScale scale
      sampleText := if scan.sampleText = "" then clip 80 value else scan.sampleText }

/-- `CsvColumnProfile`. -/
structure CsvColumnProfile where
  name : String
  inferredType : CsvType
  populated : Nat
  nulls : Nat
  sampleText : String
  decimalPrecision : Nat := 0
  decimalScale : Nat := 0
  timezoneAware : Bool := false
  deriving DecidableEq

/-- `_merge_types`; a set of one type is that type. -/
def mergeTypes (types : Finset CsvType) : CsvType :=
  if types = ∅ then .empty
  else if types = {.datetimeTz} then .datetime
  else if types = {.boolean} then .boolean
  else if types = {.integer} then .integer
  else if types = {.decimal} then .decimal
  else if types = {.date} then .date
  else if types = {.time} then .time
  else if types = {.datetime} then .datetime
  else if types ⊆ {.integer, .decimal} then .decimal
  else if types ⊆ {.date, .datetime} then .datetime
  else .text

/-- `_column_profile`. -/
def columnProfile (name : String) (scan : ColumnScan) : Except String CsvColumnProfile :=
  let inferredType := mergeTypes scan.types
  let profile : CsvColumnProfile := {
    name
    inferredType
    populated := scan.populated
    nulls := scan.nulls
    sampleText := scan.sampleText }
  if inferredType ≠ .decimal then
    .ok { profile with timezoneAware := scan.types = {.datetimeTz} }
  else
    let precision := max (max (scan.integerDigits + scan.decimalScale) scan.decimalScale) 1
    if maxCsvDecimalPrecision < precision then
      .error "CSV decimal precision cannot exceed 38 digits."
    else .ok { profile with decimalPrecision := precision, decimalScale := scan.decimalScale }

/-! ## Files -/

section Files

variable (lib : CsvLibrary) (headers : List String) (maxCellCharacters : Nat)

/-- The cells of a row, from left to right. -/
def scanCells : List ColumnScan → List String → Except String (List ColumnScan)
  | scan :: scans, raw :: row => do
    let scan ← scan.cell lib maxCellCharacters raw
    let scans ← scanCells scans row
    return scan :: scans
  | _, _ => .ok []

/-- A row whose cells are all blank. -/
def blankRow (row : List String) : Bool := row.all fun value => strip value = ""

/-- The loop of `profile_csv_rows` over the rows. -/
def scanRows : Nat → List ColumnScan → List (List String) → Except String (Nat × List ColumnScan)
  | rowCount, scans, [] => .ok (rowCount, scans)
  | rowCount, scans, row :: rows =>
    if row = [] then scanRows rowCount scans rows
    else if row.length ≠ headers.length then
      .error ("Row " ++ toString (rowCount + 2) ++ " has " ++ toString row.length ++
        " values; expected " ++ toString headers.length ++ ".")
    else if blankRow row then scanRows rowCount scans rows
    else do
      let scans ← scanCells lib maxCellCharacters scans row
      scanRows (rowCount + 1) scans rows

/-- The profiles of the columns. -/
def columnProfiles : List String → List ColumnScan → Except String (List CsvColumnProfile)
  | header :: headers, scan :: scans => do
    let profile ← columnProfile header scan
    let profiles ← columnProfiles headers scans
    return profile :: profiles
  | _, _ => .ok []

/-- `profile_csv_rows`. -/
def profileCsvRows (rows : List (List String)) : Except String (Nat × List CsvColumnProfile) := do
  let (rowCount, scans) ← scanRows lib headers maxCellCharacters 0
    (List.replicate headers.length {}) rows
  let columns ← columnProfiles headers scans
  return (rowCount, columns)

end Files

end Csv

end DataMover
