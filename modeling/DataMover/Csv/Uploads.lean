import DataMover.Csv.Profiles
import DataMover.Text.QuoteDoubling

/-!
# CSV uploads

`inspect_csv` reads a file with the dialect that the sniffer finds in its first characters and stores
three parameters of the dialect; `_normalize_profiled_cells` reads the file again with these three,
normalises the cells of the typed columns and writes the rows anew.
-/

namespace DataMover

namespace Csv

open Delimited (Dialect)

/-- The functions of Python's library that uploads are read and written with. -/
structure CsvFileLibrary extends CsvLibrary where
  /-- `content.decode("utf-8-sig")`; `none` is a `UnicodeDecodeError`. -/
  decode : Bytes → Option String
  /-- `csv.Sniffer().sniff(sample, delimiters=",;\t|")`; `none` is a `csv.Error`. -/
  sniff : String → Option Dialect
  /-- `character.isdigit()`. -/
  isdigit : Char → Bool
  /-- Whether the `csv.writer` of this release quotes every cell with a carriage return. -/
  quotesReturns : Bool

/-! ## Inspecting an upload -/

/-- `csv.excel`. -/
def excel : Dialect := { delimiter := ',', quote := '"' }

/-- `csv_dialect`. -/
def csvDialect (lib : CsvFileLibrary) (sample : String) : Dialect := (lib.sniff sample).getD excel

/-- `list(csv.reader(io.StringIO(text, newline=""), dialect))`, without the limit on the length of a
field, which refuses more uploads. -/
def readRows (d : Dialect) (text : String) : List (List String) :=
  (d.rows text.toList).map fun row => row.map String.ofList

/-- `csv_headers`; the error is the text of a `ValueError`. -/
def csvHeaders (lib : CsvLibrary) (rawHeaders : List String) (maxColumns : Nat) :
    Except String (List String) :=
  if rawHeaders.any fun header => header.toList.any fun c => c.toNat < 32 || c.toNat = 127 then
    .error ("CSV column names must not contain control characters such as line breaks or tabs. " ++
      "Rename those columns and upload the file again.")
  else
    let headers := rawHeaders.map strip
    if headers = [] ∨ "" ∈ headers then .error "Every CSV column must have a name."
    else if maxColumns < headers.length then
      .error ("CSV files may contain at most " ++ toString maxColumns ++ " columns.")
    else if ∃ header ∈ headers, 128 < header.toList.length then
      .error "CSV column names must be 128 characters or fewer."
    else if ¬ (headers.map lib.casefold).Nodup then .error "CSV column names must be unique."
    else .ok headers

/-- `PurePosixPath(path).name`. -/
def posixName (path : List Char) : List Char :=
  ((path.splitOn '/').filter fun part => part ≠ [] ∧ part ≠ ['.']).getLast?.getD []

/-- `_safe_csv_filename`. -/
def safeCsvFilename (lib : CsvLibrary) (filename : String) : Except String String :=
  let path := filename.toList.map fun c => if c = '\\' then '/' else c
  let normalized := String.ofList
    ((strip (String.ofList (posixName path))).toList.filter fun c => 32 ≤ c.toNat)
  if normalized = "" ∨ ¬ ".csv".toList <:+ (lib.casefold normalized).toList then
    .error "Choose a file with a .csv extension."
  else if 180 < normalized.toList.length then
    .error "CSV filenames must be 180 characters or fewer."
  else .ok normalized

def maxCsvUploadBytes : Nat := 5 * 1024 * 1024

def maxCsvColumns : Nat := 200

def maxCsvCellCharacters : Nat := 131072

/-- `CsvInspection`. -/
structure CsvInspection where
  filename : String
  sizeBytes : Nat
  rowCount : Nat
  columns : List CsvColumnProfile
  delimiter : Char := ','
  quoteChar : Char := '"'
  skipInitialSpace : Bool := false

/-- The dialect of a text. -/
def dialectOf (lib : CsvFileLibrary) (text : String) : Dialect := csvDialect lib (clip 16384 text)

/-- `inspect_csv`. -/
def inspectCsv (lib : CsvFileLibrary) (filename : String) (content : Bytes) :
    Except String CsvInspection := do
  let safeFilename ← safeCsvFilename lib.toCsvLibrary filename
  if content = [] then .error "Choose a non-empty CSV file."
  else if maxCsvUploadBytes < content.length then
    .error "CSV files must be 5 MB or smaller in this demo."
  else if 0 ∈ content then .error "The selected file is not a valid text CSV."
  else
    match lib.decode content with
    | none => .error "CSV files must use UTF-8 encoding."
    | some text =>
      let dialect := dialectOf lib text
      match readRows dialect text with
      | [] => .error "The CSV must contain a header row."
      | rawHeaders :: rows => do
        let headers ← csvHeaders lib.toCsvLibrary rawHeaders maxCsvColumns
        let (rowCount, columns) ←
          profileCsvRows lib.toCsvLibrary headers maxCsvCellCharacters rows
        return {
          filename := safeFilename
          sizeBytes := content.length
          rowCount
          columns
          delimiter := dialect.delimiter
          quoteChar := dialect.quote
          skipInitialSpace := dialect.skipInitialSpace }

/-! ## Reading it again -/

/-- `[0-9]{2}:[0-9]{2}` and what follows. -/
def clockPattern (cs : List Char) : Option (List Char) :=
  match twoDigits cs with
  | some (c :: rest) => if c = ':' then twoDigits rest else none
  | _ => none

/-- `_MINUTE_FRACTION_TIME_PATTERN`. -/
def minuteFractionPattern (cs : List Char) : Bool :=
  match clockPattern cs with
  | some (c :: digit :: digits) => c = '.' && (digit :: digits).all Char.isDigit
  | _ => false

/-- `normalize_time_text`. -/
def normalizeTimeText (lib : CsvFileLibrary) (value : String) : String :=
  let cs := match value.toList with
    | t :: c :: rest => if (t = 'T' ∨ t = 't') ∧ lib.isdigit c then c :: rest else t :: c :: rest
    | cs => cs
  let cs := cs.map fun c => if c = ',' then '.' else c
  if minuteFractionPattern cs then String.ofList (cs.take 5 ++ ":00.".toList ++ cs.drop 6)
  else if clockPattern cs = some [] then String.ofList (cs ++ ":00".toList)
  else String.ofList cs

/-- What `_normalize_profiled_cells` makes of a cell of a column of this type. -/
def normalizeCell (lib : CsvFileLibrary) (type : CsvType) (cell : String) : String :=
  if type = .text ∨ type = .empty then cell
  else
    let value := strip cell
    if type = .time then normalizeTimeText lib value
    else if type = .boolean then lib.casefold value
    else value

/-- The cells of a row, each normalised for its column; a cell without a column stays. -/
def normalizeRow (lib : CsvFileLibrary) : List CsvType → List String → List String
  | type :: types, cell :: row => normalizeCell lib type cell :: normalizeRow lib types row
  | _, row => row

/-- The dialect of a `csv.reader` with these three parameters. -/
def persistedDialect (inspection : CsvInspection) : Dialect where
  delimiter := inspection.delimiter
  quote := inspection.quoteChar
  skipInitialSpace := inspection.skipInitialSpace

/-- The dialect of a `csv.reader` or `csv.writer` with the delimiter and the quote. -/
def plainDialect (inspection : CsvInspection) : Dialect where
  delimiter := inspection.delimiter
  quote := inspection.quoteChar

/-- The rows that `_normalize_profiled_cells` does not skip. -/
def keptRows (rows : List (List String)) : List (List String) := rows.filter fun row => !blankRow row

/-- The types of the columns. -/
def CsvInspection.types (inspection : CsvInspection) : List CsvType :=
  inspection.columns.map CsvColumnProfile.inferredType

/-- `_normalize_profiled_cells`, as `_frame` calls it. -/
def normalizeProfiledCells (lib : CsvFileLibrary) (inspection : CsvInspection) (text : String) :
    String :=
  let rows := (keptRows (readRows (persistedDialect inspection) text)).map
    (normalizeRow lib inspection.types)
  String.ofList ((plainDialect inspection).write lib.quotesReturns (rows.map (·.map String.toList)))

end Csv

end DataMover
