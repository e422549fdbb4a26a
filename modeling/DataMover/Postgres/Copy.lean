import DataMover.Engine.Keys

/-!
# The text that a batch is copied as

`PostgresConnector.write_batch` writes the rows of a batch as CSV for
`COPY … FROM STDIN WITH (FORMAT CSV, NULL '\N')`: every value in quotes, every null as a bare `\N`.  The
server first cuts the data into lines, at the newlines outside of quotes, and then each line into
fields.  What it reads are the rows that were written.
-/

namespace DataMover

namespace Copy

/-! ## Writing -/

/-- The text of a cell that is not null: the hexadecimal form of `bytea`, or what `csv.writer` makes of
the value. -/
def cellText : Cell → List Char
  | .null => []
  | .bool b => (if b then "True" else "False").toList
  | .int n => (toString n).toList
  | .float printed | .decimal printed | .other _ printed => printed.toList
  | .text s => s.toList
  | .bytes data => '\\' :: 'x' :: (hexdigest data).toList

/-- Quotes are doubled. -/
def escapeQuotes (text : List Char) : List Char :=
  text.flatMap fun c => if c = '"' then ['"', '"'] else [c]

/-- `\N`. -/
def nullMarker : List Char := ['\\', 'N']

/-- A field: the null marker, or a row of one value written with `QUOTE_ALL`. -/
def fieldText (value : Cell) : List Char :=
  if value = .null then nullMarker else '"' :: (escapeQuotes (cellText value) ++ ['"'])

/-- `",".join(fields)`. -/
def rowText : List Cell → List Char
  | [] => []
  | [value] => fieldText value
  | value :: next :: row => fieldText value ++ ',' :: rowText (next :: row)

/-- The buffer of `write_batch`. -/
def copyBuffer (rows : List (List Cell)) : List Char := rows.flatMap fun row => rowText row ++ ['\n']

/-! ## Reading -/

/-- A field as PostgreSQL reads it; `none` is null. -/
abbrev Field := Option (List Char)

/-- The marker that ends the data. -/
def endOfData : List Char := ['\\', '.']

/-- Cut the data into lines.  The state is whether a quote is open, and the line so far, backwards; a
carriage return outside of quotes is not accepted. -/
def readLines : Bool → List Char → List Char → Option (List (List Char))
  | _, line, [] => some (if line = [] then [] else [line.reverse])
  | inQuote, line, c :: data =>
    if c = '\n' ∧ inQuote = false then
      if line.reverse = endOfData then some []
      else (readLines false [] data).map (line.reverse :: ·)
    else if c = '\r' ∧ inQuote = false then none
    else readLines (inQuote != (c == '"')) (c :: line) data

/-- The end of a field: an unquoted null marker is null. -/
def finishField (sawQuote : Bool) (value : List Char) : Field :=
  if sawQuote = false ∧ value.reverse = nullMarker then none else some value.reverse

/-- Cut a line into fields.  The state is whether a quote is open, whether the field had one, and the
value so far, backwards; a quote that stays open is an error. -/
def readFields : Bool → Bool → List Char → List Char → Option (List Field)
  | false, sawQuote, value, [] => some [finishField sawQuote value]
  | false, sawQuote, value, c :: line =>
    if c = ',' then (readFields false false [] line).map (finishField sawQuote value :: ·)
    else if c = '"' then readFields true true value line
    else readFields false sawQuote (c :: value) line
  | true, _, _, [] => none
  | true, sawQuote, value, '"' :: '"' :: line => readFields true sawQuote ('"' :: value) line
  | true, sawQuote, value, c :: line =>
    if c = '"' then readFields false sawQuote value line
    else readFields true sawQuote (c :: value) line

/-- `COPY … FROM STDIN WITH (FORMAT CSV, NULL '\N')`. -/
def readCopy (data : List Char) : Option (List (List Field)) :=
  (readLines false [] data).bind fun lines => lines.mapM (readFields false false [])

/-- The field that a cell comes back as. -/
def copied (value : Cell) : Field := if value = .null then none else some (cellText value)

/-! ## Lines -/

section Lines

variable {line data : List Char}

/-- Within quotes, escaped text is part of the line. -/
theorem readLines_escapeQuotes (text : List Char) :
    readLines true line (escapeQuotes text ++ data) =
      readLines true ((escapeQuotes text).reverse ++ line) data := by
  induction text generalizing line with
  | nil => rfl
  | cons c text ih =>
    by_cases quote : c = '"'
    · have doubled : escapeQuotes (c :: text) = '"' :: '"' :: escapeQuotes text := by
        simp [escapeQuotes, quote]
      have twice : readLines true line ('"' :: '"' :: (escapeQuotes text ++ data)) =
          readLines true ('"' :: '"' :: line) (escapeQuotes text ++ data) := rfl
      rw [doubled, List.cons_append, List.cons_append, twice, ih]
      simp
    · have single : escapeQuotes (c :: text) = c :: escapeQuotes text := by
        simp [escapeQuotes, quote]
      have once : readLines true line (c :: (escapeQuotes text ++ data)) =
          readLines true (c :: line) (escapeQuotes text ++ data) := by
        rw [readLines, if_neg (by simp), if_neg (by simp)]
        congr 1
        simpa using quote
      rw [single, List.cons_append, once, ih]
      simp

/-- A field is part of the line. -/
theorem readLines_fieldText (value : Cell) :
    readLines false line (fieldText value ++ data) =
      readLines false ((fieldText value).reverse ++ line) data := by
  unfold fieldText
  split_ifs with null
  · rfl
  · have opened : ∀ rest, readLines false line ('"' :: rest) = readLines true ('"' :: line) rest :=
      fun _ => rfl
    have closed : ∀ l : List Char, readLines true l ('"' :: data) = readLines false ('"' :: l) data :=
      fun _ => rfl
    rw [List.cons_append, opened, List.append_assoc, readLines_escapeQuotes, List.singleton_append,
      closed]
    simp

/-- The text of a row is part of the line. -/
theorem readLines_rowText (row : List Cell) :
    readLines false line (rowText row ++ data) = readLines false ((rowText row).reverse ++ line) data := by
  induction row generalizing line with
  | nil => rfl
  | cons value row ih =>
    cases row with
    | nil => exact readLines_fieldText value
    | cons next row =>
      have comma : ∀ l rest, readLines false l (',' :: rest) = readLines false (',' :: l) rest :=
        fun _ _ => rfl
      rw [rowText, List.append_assoc, readLines_fieldText, List.cons_append, comma, ih]
      simp

/-- No row looks like the end of the data. -/
theorem rowText_ne_endOfData (row : List Cell) : rowText row ≠ endOfData := by
  have first : ∀ value (rest : List Char), fieldText value ++ rest ≠ endOfData := by
    intro value rest
    unfold fieldText
    split_ifs <;> simp [nullMarker, endOfData]
  cases row with
  | nil => decide
  | cons value row =>
    cases row with
    | nil => simpa [rowText] using first value []
    | cons next row => exact first value _

/-- The lines of the buffer are the texts of the rows. -/
theorem readLines_copyBuffer (rows : List (List Cell)) :
    readLines false [] (copyBuffer rows) = some (rows.map rowText) := by
  induction rows with
  | nil => rfl
  | cons row rows ih =>
    have cut : copyBuffer (row :: rows) = rowText row ++ '\n' :: copyBuffer rows := by
      simp [copyBuffer]
    rw [cut, readLines_rowText, readLines, if_pos ⟨rfl, rfl⟩, List.append_nil, List.reverse_reverse,
      if_neg (rowText_ne_endOfData row), ih]
    rfl

end Lines

/-! ## Fields -/

section Fields

variable {value line : List Char}

/-- Within quotes, escaped text is read as the text. -/
theorem readFields_escapeQuotes (text : List Char) :
    readFields true true value (escapeQuotes text ++ '"' :: line) =
      readFields true true (text.reverse ++ value) ('"' :: line) := by
  induction text generalizing value with
  | nil => rfl
  | cons c text ih =>
    by_cases quote : c = '"'
    · have doubled : escapeQuotes (c :: text) = '"' :: '"' :: escapeQuotes text := by
        simp [escapeQuotes, quote]
      rw [doubled, List.cons_append, List.cons_append, readFields, ih, quote]
      simp
    · have single : escapeQuotes (c :: text) = c :: escapeQuotes text := by
        simp [escapeQuotes, quote]
      have once : ∀ rest, readFields true true value (c :: rest) =
          readFields true true (c :: value) rest := by
        intro rest
        rw [readFields, if_neg quote]
        rintro rest' ⟨⟩
        exact absurd rfl quote
      rw [single, List.cons_append, once, ih]
      simp

/-- What comes after a field: the end of the line, or a comma. -/
def afterField : Option (List Char) → List Char
  | none => []
  | some rest => ',' :: rest

/-- A field that was written is read as its value. -/
theorem readFields_fieldText (cell : Cell) (rest : Option (List Char)) :
    readFields false false [] (fieldText cell ++ afterField rest) =
      match rest with
      | none => some [copied cell]
      | some rest => (readFields false false [] rest).map (copied cell :: ·) := by
  have quotes : ∀ text : List Char, readFields false false [] ('"' :: (text ++ afterField rest)) =
      readFields true true [] (text ++ afterField rest) := fun _ => rfl
  unfold fieldText copied
  split_ifs with null
  · cases rest <;> rfl
  · rw [List.cons_append, quotes, List.append_assoc, List.singleton_append, readFields_escapeQuotes,
      List.append_nil]
    have closed : ∀ l : List Char, readFields true true l ('"' :: afterField rest) =
        readFields false true l (afterField rest) := by
      intro l
      cases rest <;> rfl
    rw [closed]
    cases rest with
    | none => simp [afterField, readFields, finishField]
    | some rest => simp [afterField, readFields, finishField]

/-- A row that was written is read as its values. -/
theorem readFields_rowText {row : List Cell} (width : row ≠ []) :
    readFields false false [] (rowText row) = some (row.map copied) := by
  induction row with
  | nil => exact absurd rfl width
  | cons cell row ih =>
    cases row with
    | nil => simpa [rowText, afterField] using readFields_fieldText cell none
    | cons next row =>
      have read := readFields_fieldText cell (some (rowText (next :: row)))
      dsimp only at read
      rw [ih (List.cons_ne_nil _ _)] at read
      exact read

end Fields

/-! ## Main result -/

/-- The rows that are copied are the rows of the batch; a `bytea` text determines its bytes. -/
theorem copy_is_lossless :
    (∀ rows : List (List Cell), (∀ row ∈ rows, row ≠ []) →
      readCopy (copyBuffer rows) = some (rows.map fun row => row.map copied)) ∧
    copied .null = none ∧ (∀ s, copied (.text s) = some s.toList) ∧
    (∀ data, copied (.bytes data) = some ('\\' :: 'x' :: (hexdigest data).toList)) ∧
    ∀ data data', copied (.bytes data) = copied (.bytes data') → data = data' := by
  refine ⟨fun rows width => ?_, rfl, fun _ => rfl, fun _ => rfl, fun data data' same => ?_⟩
  · rw [readCopy, readLines_copyBuffer]
    change (rows.map rowText).mapM (readFields false false []) = _
    induction rows with
    | nil => rfl
    | cons row rows ih =>
      have first := readFields_rowText (width row List.mem_cons_self)
      have rest := ih fun r hr => width r (List.mem_cons_of_mem _ hr)
      rw [List.map_cons, List.mapM_cons, first, rest]
      rfl
  · have texts : '\\' :: 'x' :: (hexdigest data).toList = '\\' :: 'x' :: (hexdigest data').toList :=
      Option.some.inj same
    simp only [List.cons.injEq, true_and] at texts
    exact hexdigest_injective (String.toList_injective texts)

theorem copy_is_lossless_quoted :
    readCopy (copyBuffer [[.text "\\N", .null], [.text "a,\"\n", .bytes [255]], [.text "", .text "\\."]]) =
      some [[some "\\N".toList, none], [some "a,\"\n".toList, some "\\xff".toList],
        [some [], some "\\.".toList]] :=
  copy_is_lossless.1 _ (by simp)

end Copy

end DataMover
