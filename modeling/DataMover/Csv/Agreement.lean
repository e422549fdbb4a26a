import DataMover.Csv.Uploads
import DataMover.Text.Decimals

/-!
# The two CSV parsers

Profiling reads a file with the sniffed dialect; the extraction reads it again with the delimiter, the
quote and the treatment of spaces, but always takes a doubled quote for a quote.  The two agree on the
rows exactly when the dialect does so too or no doubled quote stands in the way, and the rewritten file
has these rows exactly when the writer quotes every cell that a carriage return would cut.
-/

namespace DataMover

namespace Csv

open Delimited (Dialect Plain Readable isNewline)

/-! ## What the two parsers should agree on -/

/-- The header and the rows that `profile_csv_rows` profiles. -/
def profiledRows (lib : CsvFileLibrary) (text : String) : List (List String) :=
  match readRows (dialectOf lib text) text with
  | [] => []
  | header :: rows => header :: countedRows rows

/-- The extraction reads the profiled rows, as many as are stored, and the file that it writes has these
rows, normalised. -/
structure ParsersAgree (lib : CsvFileLibrary) (inspection : CsvInspection) (text : String) : Prop where
  rows : keptRows (readRows (persistedDialect inspection) text) = profiledRows lib text
  rowCount : (keptRows (readRows (persistedDialect inspection) text)).length = inspection.rowCount + 1
  rewritten : readRows (plainDialect inspection) (normalizeProfiledCells lib inspection text) =
    (profiledRows lib text).map (normalizeRow lib inspection.types)

/-- The dialect doubles quotes, or what follows the first doubled quote in a quoted field is plain. -/
def QuotesAgree (d : Dialect) (text : String) : Prop :=
  d.doubleQuote = true ∨ ∀ after, d.afterDoubled {} text.toList = some after → Plain d after

/-- The writer quotes carriage returns, or no cell of a text column has one without a character that
makes the writer quote the cell. -/
def ReturnsQuoted (lib : CsvFileLibrary) (inspection : CsvInspection) (text : String) : Prop :=
  lib.quotesReturns = true ∨ ∀ row ∈ (profiledRows lib text).tail, ∀ (j : Nat) type cell,
    inspection.types[j]? = some type → type = .text ∨ type = .empty → row[j]? = some cell →
      '\r' ∈ cell.toList → inspection.delimiter ∈ cell.toList ∨ inspection.quoteChar ∈ cell.toList ∨
        '\n' ∈ cell.toList

/-- What the parsers rely on: the sniffer finds one of four delimiters and a quote that is no delimiter
and no space, case folding makes no carriage return, and a time has none. -/
structure CsvFileLibrary.Regular (lib : CsvFileLibrary) : Prop where
  delimiter : ∀ sample d, lib.sniff sample = some d → d.delimiter ∈ [',', ';', '\t', '|']
  quote : ∀ sample d, lib.sniff sample = some d → d.quote ∉ [',', ';', '\t', '|']
  visible : ∀ sample d, lib.sniff sample = some d → isSpace d.quote = false
  casefold : ∀ s : String, '\r' ∈ (lib.casefold s).toList → '\r' ∈ s.toList
  time : ∀ s aware, lib.timeFromIsoformat s = some aware → '\r' ∉ s.toList

/-! ## Typed cells have no carriage return -/

section Returns

variable {cs rest : List Char}

theorem isDigit_ne_return {c : Char} (h : c.isDigit = true) : c ≠ '\r' := by
  rintro rfl
  exact absurd h (by decide)

theorem twoDigits_return (h : twoDigits cs = some rest) (later : '\r' ∉ rest) : '\r' ∉ cs := by
  unfold twoDigits at h
  split at h
  · split_ifs at h with digits
    cases h
    have a := isDigit_ne_return digits.1
    have b := isDigit_ne_return digits.2
    simp [later, a.symm, b.symm]
  · cases h

theorem datePrefix_return (h : datePrefix cs = some rest) (later : '\r' ∉ rest) : '\r' ∉ cs := by
  unfold datePrefix at h
  split at h
  · split_ifs at h with shape
    obtain ⟨all, rfl, rfl⟩ := shape
    cases h
    simp only [List.all_cons, List.all_nil, Bool.and_true, Bool.and_eq_true] at all
    obtain ⟨a, b, c, d, e, f, g, i⟩ := all
    simp [later, (isDigit_ne_return a).symm, (isDigit_ne_return b).symm,
      (isDigit_ne_return c).symm, (isDigit_ne_return d).symm, (isDigit_ne_return e).symm,
      (isDigit_ne_return f).symm, (isDigit_ne_return g).symm, (isDigit_ne_return i).symm]
  · cases h

theorem offsetPattern_return (h : offsetPattern cs = true) : '\r' ∉ cs := by
  unfold offsetPattern at h
  split at h
  · exact nofun
  · rename_i c tail
    split_ifs at h with zulu sign
    · simp [zulu, of_decide_eq_true h]
    · have first : '\r' ≠ c := by
        rintro rfl
        exact absurd sign (by decide)
      have later : '\r' ∉ tail := by
        split at h
        · rename_i two
          exact twoDigits_return two nofun
        · rename_i d more two
          refine twoDigits_return two ?_
          split_ifs at h with colon
          · have := twoDigits_return (of_decide_eq_true h) nofun
            simp [colon, this]
          · exact twoDigits_return (of_decide_eq_true h) nofun
        · cases h
      simp [first, later]

theorem digits_return (h : '\r' ∉ cs.dropWhile Char.isDigit) : '\r' ∉ cs := by
  intro hc
  exact h (mem_dropWhile hc (by decide))

theorem fractionPattern_return (h : fractionPattern cs = true) : '\r' ∉ cs := by
  unfold fractionPattern at h
  split at h
  · exact nofun
  · rename_i c tail
    split_ifs at h with point
    · have offset := (Bool.and_eq_true_iff.1 h).2
      have later := digits_return (offsetPattern_return offset)
      simp [point, later]
    · exact offsetPattern_return h

theorem secondsPattern_return (h : secondsPattern cs = true) : '\r' ∉ cs := by
  unfold secondsPattern at h
  split at h
  · exact nofun
  · rename_i c tail
    split_ifs at h with colon
    · split at h
      · rename_i two
        have later := twoDigits_return two (fractionPattern_return h)
        simp [colon, later]
      · cases h
    · exact offsetPattern_return h

theorem datetimePattern_return {value : String} (h : datetimePattern value = true) :
    '\r' ∉ value.toList := by
  unfold datetimePattern at h
  split at h
  · rename_i separator tail date
    obtain ⟨separated, clock⟩ := Bool.and_eq_true_iff.1 h
    refine datePrefix_return date ?_
    have first : '\r' ≠ separator := by
      rintro rfl
      exact absurd separated (by decide)
    have later : '\r' ∉ tail := by
      split at clock
      · rename_i c more two
        obtain ⟨colon, minutes⟩ := Bool.and_eq_true_iff.1 clock
        refine twoDigits_return two ?_
        cases seconds : twoDigits more with
        | none =>
          rw [seconds] at minutes
          cases minutes
        | some last =>
          rw [seconds] at minutes
          have := twoDigits_return seconds (secondsPattern_return minutes)
          simp [of_decide_eq_true colon, this]
      · cases clock
    simp [first, later]
  · cases h

theorem datePattern_return {value : String} (h : datePattern value = true) : '\r' ∉ value.toList :=
  datePrefix_return (of_decide_eq_true h) nofun

theorem numericSpelling_return (h : (numericSpelling asciiDigit cs).isSome = true) : '\r' ∉ cs := by
  intro hc
  obtain ⟨n, spelled⟩ := Option.isSome_iff_exists.1 h
  rcases numericSpelling_chars spelled _ hc with digit | mark
  · exact absurd digit (by decide)
  · exact absurd mark (by decide)

end Returns

section Cells

variable {lib : CsvFileLibrary} {v : String}

/-- The types of instants. -/
def IsInstant (type : CsvType) : Prop := type = .datetime ∨ type = .datetimeTz

instance : DecidablePred IsInstant := fun type =>
  inferInstanceAs (Decidable (type = .datetime ∨ type = .datetimeTz))

/-- A text with the type of an instant has the pattern of one. -/
theorem datetimePattern_of_temporalType (h : IsInstant (temporalType lib.toCsvLibrary v)) :
    datetimePattern v = true := by
  by_contra other
  rw [temporalType, if_neg other] at h
  split_ifs at h
  · exact absurd h (by decide)
  · exact absurd h (by decide)
  · split at h
    · split_ifs at h <;> exact absurd h (by decide)
    · exact absurd h (by decide)
  · exact absurd h (by decide)

theorem datetimePattern_of_decimalOrTemporalType
    (h : IsInstant (decimalOrTemporalType lib.toCsvLibrary v)) : datetimePattern v = true := by
  unfold decimalOrTemporalType at h
  split at h
  · split_ifs at h <;> exact absurd h (by decide)
  · exact datetimePattern_of_temporalType h

theorem datetimePattern_of_valueType (h : IsInstant (valueType lib.toCsvLibrary v)) :
    datetimePattern v = true := by
  unfold valueType at h
  by_cases boolean : lib.casefold v = "true" ∨ lib.casefold v = "false"
  · rw [if_pos boolean] at h
    exact absurd h (by decide)
  · rw [if_neg boolean] at h
    dsimp only at h
    split at h
    · split_ifs at h
      · exact datetimePattern_of_decimalOrTemporalType h
      all_goals exact absurd h (by decide)
    · exact datetimePattern_of_decimalOrTemporalType h

theorem datetimePattern_of_cellFacts (h : IsInstant (cellFacts lib.toCsvLibrary v).1) :
    datetimePattern v = true := by
  suffices type : IsInstant (valueType lib.toCsvLibrary v) from datetimePattern_of_valueType type
  unfold cellFacts at h
  dsimp only at h
  split_ifs at h with number
  · split at h
    · exact h
    · exact absurd h (by decide)
  · exact h

/-- A text with a type of its own, other than a boolean, has no carriage return. -/
theorem cellFacts_return (regular : lib.Regular) (other : (cellFacts lib.toCsvLibrary v).1 ≠ .text)
    (boolean : (cellFacts lib.toCsvLibrary v).1 ≠ .boolean) : '\r' ∉ v.toList := by
  have accepted : Accepts lib.toCsvLibrary v (cellFacts lib.toCsvLibrary v).1 := accepts_cellFacts
  cases type : (cellFacts lib.toCsvLibrary v).1 with
  | boolean => exact absurd type boolean
  | text => exact absurd type other
  | empty =>
    rw [type] at accepted
    exact accepted.elim
  | integer =>
    rw [type] at accepted
    obtain ⟨n, spelled, -⟩ := accepted
    exact numericSpelling_return (by rw [numericSpelling, spelled, Option.some_or]; rfl)
  | decimal =>
    rw [type] at accepted
    exact numericSpelling_return accepted
  | date =>
    rw [type] at accepted
    exact datePattern_return accepted.1
  | time =>
    rw [type] at accepted
    exact regular.time v false accepted
  | datetime => exact datetimePattern_return (datetimePattern_of_cellFacts (.inl type))
  | datetimeTz => exact datetimePattern_return (datetimePattern_of_cellFacts (.inr type))

/-- Normalising a time brings no carriage return. -/
theorem normalizeTimeText_return (h : '\r' ∉ v.toList) :
    '\r' ∉ (normalizeTimeText lib v).toList := by
  have commas {cs : List Char} (clear : '\r' ∉ cs) :
      '\r' ∉ cs.map fun c => if c = ',' then '.' else c := by
    intro mem
    obtain ⟨c, hc, eq⟩ := List.mem_map.1 mem
    split_ifs at eq with comma
    · cases eq
    · exact clear (eq ▸ hc)
  have last {cs : List Char} (clear : '\r' ∉ cs) :
      '\r' ∉ (if minuteFractionPattern cs then
          String.ofList (cs.take 5 ++ ":00.".toList ++ cs.drop 6)
        else if clockPattern cs = some [] then String.ofList (cs ++ ":00".toList)
        else String.ofList cs).toList := by
    have seconds : '\r' ∉ ":00.".toList ∧ '\r' ∉ ":00".toList := by decide
    split_ifs
    · rw [String.toList_ofList, List.mem_append, List.mem_append]
      rintro ((mem | mem) | mem)
      · exact clear (List.mem_of_mem_take mem)
      · exact seconds.1 mem
      · exact clear (List.mem_of_mem_drop mem)
    · rw [String.toList_ofList, List.mem_append]
      rintro (mem | mem)
      · exact clear mem
      · exact seconds.2 mem
    · rwa [String.toList_ofList]
  unfold normalizeTimeText
  refine last (commas ?_)
  split
  · rename_i t c rest split
    rw [split] at h
    split_ifs
    · exact fun mem => h (List.mem_cons_of_mem t mem)
    · exact h
  · exact h

/-- A cell of a typed column has no carriage return once it is normalised: its stripped text has none,
or its column is boolean. -/
theorem normalizeCell_return {type : CsvType} (typed : ¬ (type = .text ∨ type = .empty))
    (regular : lib.Regular) (h : '\r' ∉ (strip v).toList ∨
      type = .boolean ∧ '\r' ∉ (lib.casefold (strip v)).toList) :
    '\r' ∉ (normalizeCell lib type v).toList := by
  rw [normalizeCell, if_neg typed]
  dsimp only
  split_ifs with time boolean
  · refine normalizeTimeText_return (h.resolve_right ?_)
    rintro ⟨e, -⟩
    rw [e] at time
    cases time
  · rcases h with clear | ⟨-, clear⟩
    · exact fun mem => clear (regular.casefold _ mem)
    · exact clear
  · exact h.resolve_right fun e => boolean e.1

end Cells

/-! ## Accepted uploads -/

section Accepted

variable {lib : CsvFileLibrary} {filename : String} {content : Bytes} {inspection : CsvInspection}
  {text : String}

/-- What is known of headers that are accepted. -/
theorem csvHeaders_ok {rawHeaders headers : List String} {maxColumns : Nat}
    (h : csvHeaders lib.toCsvLibrary rawHeaders maxColumns = .ok headers) :
    (∀ header ∈ rawHeaders, '\r' ∉ header.toList) ∧ headers = rawHeaders.map strip ∧
      headers ≠ [] ∧ "" ∉ headers := by
  unfold csvHeaders at h
  split_ifs at h with control
  dsimp only at h
  split_ifs at h with unnamed
  cases h
  push Not at unnamed
  refine ⟨fun header mem line => control ?_, rfl, unnamed⟩
  exact List.any_eq_true.2 ⟨header, mem, List.any_eq_true.2 ⟨'\r', line, by decide⟩⟩

/-- The parts of an accepted upload. -/
theorem inspectCsv_ok (h : inspectCsv lib filename content = .ok inspection)
    (decoded : lib.decode content = some text) : ∃ rawHeaders rows headers,
      readRows (dialectOf lib text) text = rawHeaders :: rows ∧
      csvHeaders lib.toCsvLibrary rawHeaders maxCsvColumns = .ok headers ∧
      profileCsvRows lib.toCsvLibrary headers maxCsvCellCharacters rows =
        .ok (inspection.rowCount, inspection.columns) ∧
      inspection.delimiter = (dialectOf lib text).delimiter ∧
      inspection.quoteChar = (dialectOf lib text).quote ∧
      inspection.skipInitialSpace = (dialectOf lib text).skipInitialSpace := by
  obtain ⟨safeFilename, -, h⟩ := bind_eq_ok.1 h
  split_ifs at h
  rw [decoded] at h
  dsimp only at h
  split at h
  · cases h
  · rename_i rawHeaders rows read
    obtain ⟨headers, named, h⟩ := bind_eq_ok.1 h
    obtain ⟨⟨rowCount, columns⟩, profiled, h⟩ := bind_eq_ok.1 h
    cases h
    exact ⟨rawHeaders, rows, headers, read, named, profiled, rfl, rfl, rfl⟩

/-- A row without cells is blank, so it is enough to skip blank rows. -/
theorem countedRows_eq (rows : List (List String)) : countedRows rows = keptRows rows := by
  refine List.filter_congr fun row _ => ?_
  cases row with
  | nil => rfl
  | cons cell row => simp

/-- A header row is not blank. -/
theorem blankRow_header {rawHeaders headers : List String} {maxColumns : Nat}
    (h : csvHeaders lib.toCsvLibrary rawHeaders maxColumns = .ok headers) :
    blankRow rawHeaders = false := by
  obtain ⟨-, rfl, nonempty, named⟩ := csvHeaders_ok h
  cases rawHeaders with
  | nil => exact absurd rfl nonempty
  | cons header rest =>
    have first : strip header ≠ "" := fun e => named (by simp [e])
    simp [blankRow, first]

/-- The profiled rows are those that both parsers keep of what the first one reads. -/
theorem profiledRows_eq (h : inspectCsv lib filename content = .ok inspection)
    (decoded : lib.decode content = some text) :
    profiledRows lib text = keptRows (readRows (dialectOf lib text) text) := by
  obtain ⟨rawHeaders, rows, headers, read, named, -⟩ := inspectCsv_ok h decoded
  rw [profiledRows, read]
  dsimp only
  rw [countedRows_eq, keptRows, keptRows, List.filter_cons_of_pos]
  rw [blankRow_header named]
  rfl

/-! ## The rows -/

/-- The dialect of an accepted upload has a delimiter and a quote of its own. -/
theorem dialectOf_proper (regular : lib.Regular) (text : String) :
    (dialectOf lib text).Proper ∧ isSpace (dialectOf lib text).quote = false := by
  unfold dialectOf csvDialect
  cases sniffed : lib.sniff (clip 16384 text) with
  | none => exact ⟨⟨by decide, by decide, by decide⟩, by decide⟩
  | some d =>
    have delimiter := regular.delimiter _ _ sniffed
    have quote := regular.quote _ _ sniffed
    have visible := regular.visible _ _ sniffed
    refine ⟨⟨fun same => quote (same ▸ delimiter), ?_, ?_⟩, visible⟩
    · simp only [List.mem_cons, List.not_mem_nil, or_false] at delimiter
      rcases delimiter with e | e | e | e <;> · simp only [Option.getD_some, e]; decide
    · by_contra line
      simp only [isNewline, Option.getD_some, Bool.not_eq_false, Bool.or_eq_true,
        decide_eq_true_eq] at line
      rcases line with e | e <;> · rw [e] at visible; exact absurd visible (by decide)

/-- The rows of a text that are kept, as characters. -/
def keeps (row : List (List Char)) : Bool := !blankRow (row.map String.ofList)

theorem keptRows_readRows (d : Dialect) (text : String) :
    keptRows (readRows d text) =
      ((d.rows text.toList).filter keeps).map fun row => row.map String.ofList := by
  rw [keptRows, readRows, List.filter_map]
  rfl

/-- A row with a quote in it is kept. -/
theorem keeps_of_quote {d : Dialect} (visible : isSpace d.quote = false) {row : List (List Char)}
    (h : ∃ field ∈ row, d.quote ∈ field) : keeps row = true := by
  obtain ⟨field, mem, quote⟩ := h
  rw [keeps, Bool.not_eq_true', blankRow, List.all_eq_false]
  refine ⟨String.ofList field, List.mem_map_of_mem mem, ?_⟩
  have left : d.quote ∈ (strip (String.ofList field)).toList :=
    mem_strip (by rwa [String.toList_ofList]) visible
  intro blank
  rw [of_decide_eq_true blank] at left
  exact absurd left nofun

/-- The second parser keeps the profiled rows exactly when the quotes agree. -/
theorem rows_agree_iff (regular : lib.Regular) (h : inspectCsv lib filename content = .ok inspection)
    (decoded : lib.decode content = some text) :
    keptRows (readRows (persistedDialect inspection) text) = profiledRows lib text ↔
      QuotesAgree (dialectOf lib text) text := by
  obtain ⟨-, -, -, -, -, -, delimiter, quote, spaces⟩ := inspectCsv_ok h decoded
  have again : persistedDialect inspection = (dialectOf lib text).doubled := by
    rw [persistedDialect, Dialect.doubled, delimiter, quote, spaces]
  obtain ⟨proper, visible⟩ := dialectOf_proper regular text
  rw [profiledRows_eq h decoded, again]
  generalize dialectOf lib text = d at proper visible ⊢
  cases doubled : d.doubleQuote with
  | true =>
    have same : d.doubled = d := by rw [Dialect.doubled, ← doubled]
    rw [same]
    exact iff_of_true rfl (.inl doubled)
  | false =>
    have same : d.single = d := by rw [Dialect.single, ← doubled]
    have texts : Function.Injective fun row : List (List Char) => row.map String.ofList :=
      List.map_injective_iff.2 fun a b e => by simpa using congrArg String.toList e
    rw [keptRows_readRows, keptRows_readRows, (List.map_injective_iff.2 texts).eq_iff, eq_comm]
    nth_rewrite 1 [← same]
    have start : Delimited.Together {} {} := .refl (by decide)
    refine (Delimited.filter_read_iff proper (fun row => keeps_of_quote visible) start).trans
      ⟨.inr, fun agree => agree.resolve_left ?_⟩
    rw [doubled]
    exact Bool.false_ne_true

/-! ## The rewritten file -/

/-- What is known of the header and the rows that were profiled. -/
structure Profiled (lib : CsvFileLibrary) (inspection : CsvInspection) (header : List String)
    (rows : List (List String)) : Prop where
  clear : ∀ cell ∈ header, '\r' ∉ cell.toList
  rowCount : inspection.rowCount = rows.length
  width : ∀ row ∈ header :: rows, row.length = inspection.types.length
  columns : ∀ (j : Nat) type, inspection.types[j]? = some type →
    ∃ scan, Summarises lib.toCsvLibrary scan (column j rows) ∧ mergeTypes scan.types = type

/-- The rows of an accepted upload were profiled. -/
theorem profiled_of_ok (h : inspectCsv lib filename content = .ok inspection)
    (decoded : lib.decode content = some text) :
    ∃ header rows, profiledRows lib text = header :: rows ∧ Profiled lib inspection header rows := by
  obtain ⟨rawHeaders, rows, headers, read, named, profiled, -⟩ := inspectCsv_ok h decoded
  obtain ⟨clear, stripped, -⟩ := csvHeaders_ok named
  obtain ⟨acceptable, rowCount, width, each⟩ := profileCsvRows_ok profiled
  have columns : inspection.types.length = headers.length := by
    rw [CsvInspection.types, List.length_map, width]
  refine ⟨rawHeaders, countedRows rows, by rw [profiledRows, read], clear, rowCount, ?_, ?_⟩
  · rintro row (_ | ⟨_, counted⟩)
    · rw [columns, stripped, List.length_map]
    · obtain ⟨mem, counts⟩ := List.mem_filter.1 counted
      rcases acceptable row mem with rfl | ⟨length, -⟩
      · cases counts
      · rw [length, columns]
  · intro j type hj
    rw [CsvInspection.types, List.getElem?_map, Option.map_eq_some_iff] at hj
    obtain ⟨profile, hp, rfl⟩ := hj
    obtain ⟨name, scan, summary, ok⟩ := each j profile hp
    exact ⟨scan, summary, (columnProfile_ok ok).1.symm⟩

/-- Texts other than booleans are not mixed into the typed columns. -/
theorem admits_typed {type : CsvType} (typed : ¬ (type = .text ∨ type = .empty))
    (boolean : type ≠ .boolean) : .text ∉ type.admits ∧ .boolean ∉ type.admits := by
  cases type with
  | boolean => exact absurd rfl boolean
  | text => exact absurd (.inl rfl) typed
  | empty => exact absurd (.inr rfl) typed
  | _ => decide

/-- The normalised cells of a typed column have no carriage return. -/
theorem Profiled.typed_return {header : List String} {rows : List (List String)} {row : List String}
    {j : Nat} {type : CsvType} {cell : String} (p : Profiled lib inspection header rows)
    (regular : lib.Regular) (mem : row ∈ header :: rows) (ht : inspection.types[j]? = some type)
    (hc : row[j]? = some cell) (typed : ¬ (type = .text ∨ type = .empty)) :
    '\r' ∉ (normalizeCell lib type cell).toList := by
  refine normalizeCell_return typed regular ?_
  rcases mem with _ | ⟨_, counted⟩
  · exact .inl fun line => p.clear cell (List.mem_of_getElem? hc) (mem_of_strip line)
  by_cases blank : strip cell = ""
  · exact .inl (by rw [blank]; exact nofun)
  obtain ⟨scan, summary, merged⟩ := p.columns j type ht
  have value : strip cell ∈ values (column j rows) := by
    refine List.mem_filter.2 ⟨List.mem_map_of_mem (List.mem_map.2 ⟨row, counted, ?_⟩), by simp [blank]⟩
    rw [List.getD_eq_getElem?_getD, hc, Option.getD_some]
  by_cases boolean : type = .boolean
  · have accepted := summary.accepts (merged.trans boolean) rfl value
    refine .inr ⟨boolean, ?_⟩
    rcases accepted with e | e <;> · rw [e]; decide
  · have admitted := summary.admits value
    obtain ⟨text, other⟩ := admits_typed typed boolean
    rw [merged] at admitted
    exact .inl (cellFacts_return regular (fun e => text (e ▸ admitted)) fun e => other (e ▸ admitted))

theorem normalizeRow_eq {types : List CsvType} {row : List String}
    (width : row.length = types.length) :
    normalizeRow lib types row = List.zipWith (normalizeCell lib) types row := by
  induction types generalizing row with
  | nil =>
    rw [List.eq_nil_of_length_eq_zero width]
    rfl
  | cons type types ih =>
    cases row with
    | nil => cases width
    | cons cell row =>
      rw [normalizeRow, ih (Nat.succ.inj width)]
      rfl

/-- A text of rows is read back exactly when all cells are readable. -/
theorem readRows_write_iff {d : Dialect} {returns : Bool} {rows : List (List String)}
    (doubled : d.doubleQuote = true) (visible : d.skipInitialSpace = false) (proper : d.Proper) :
    readRows d (String.ofList (d.write returns (rows.map (·.map String.toList)))) = rows ↔
      ∀ row ∈ rows, ∀ cell ∈ row, Readable d returns cell.toList := by
  have back : (rows.map (·.map String.toList)).map (·.map String.ofList) = rows := by simp
  have texts : Function.Injective fun row : List (List Char) => row.map String.ofList :=
    List.map_injective_iff.2 fun a b e => by simpa using congrArg String.toList e
  rw [readRows, String.toList_ofList]
  nth_rewrite 2 [← back]
  rw [(List.map_injective_iff.2 texts).eq_iff, Delimited.rows_write_iff doubled visible proper]
  simp

/-- The normalised rows are readable exactly when the carriage returns of the text columns are quoted. -/
theorem readable_iff_returnsQuoted (regular : lib.Regular)
    (h : inspectCsv lib filename content = .ok inspection) (decoded : lib.decode content = some text) :
    (∀ row ∈ (profiledRows lib text).map (normalizeRow lib inspection.types), ∀ cell ∈ row,
      Readable (plainDialect inspection) lib.quotesReturns cell.toList) ↔
        ReturnsQuoted lib inspection text := by
  obtain ⟨header, rows, profiled, p⟩ := profiled_of_ok h decoded
  rw [profiled, ReturnsQuoted, profiled, List.tail_cons]
  constructor
  · intro readable
    by_contra other
    push Not at other
    obtain ⟨quotes, row, counted, j, type, cell, ht, unchanged, hc, line, bare⟩ := other
    have mem : row ∈ header :: rows := List.mem_cons_of_mem header counted
    have same : normalizeCell lib type cell = cell := by rw [normalizeCell, if_pos unchanged]
    have written : cell ∈ normalizeRow lib inspection.types row := by
      rw [normalizeRow_eq (p.width row mem)]
      exact List.mem_of_getElem? (List.getElem?_zipWith_eq_some.2 ⟨type, cell, ht, hc, same⟩)
    rcases Delimited.readable_iff.1 (readable _ (List.mem_map_of_mem mem) cell written) with
      always | cut
    · exact quotes always
    · rcases cut line with e | e | e
      · exact bare.1 e
      · exact bare.2.1 e
      · exact bare.2.2 e
  · rintro quoted _ normalised cell' written
    obtain ⟨row, mem, rfl⟩ := List.mem_map.1 normalised
    rw [normalizeRow_eq (p.width row mem)] at written
    obtain ⟨j, hj⟩ := List.getElem?_of_mem written
    obtain ⟨type, cell, ht, hc, rfl⟩ := List.getElem?_zipWith_eq_some.1 hj
    by_cases typed : type = .text ∨ type = .empty
    · rw [normalizeCell, if_pos typed]
      rcases mem with _ | ⟨_, counted⟩
      · exact .inr (p.clear cell (List.mem_of_getElem? hc))
      · refine Delimited.readable_iff.2 (quoted.imp_right fun bare => ?_)
        exact bare row counted j type cell ht typed hc
    · exact .inr (p.typed_return regular mem ht hc typed)

/-- For every accepted upload, the two parsers agree exactly when the quotes do and the carriage returns
of text columns are quoted. -/
theorem csv_parsers_agree_iff (regular : lib.Regular)
    (h : inspectCsv lib filename content = .ok inspection) (decoded : lib.decode content = some text) :
    ParsersAgree lib inspection text ↔
      QuotesAgree (dialectOf lib text) text ∧ ReturnsQuoted lib inspection text := by
  obtain ⟨header, rows, profiled, p⟩ := profiled_of_ok h decoded
  obtain ⟨-, -, -, -, -, -, delimiter, quote, -⟩ := inspectCsv_ok h decoded
  have proper : (plainDialect inspection).Proper := by
    obtain ⟨⟨distinct, line, line'⟩, -⟩ := dialectOf_proper regular text
    refine ⟨?_, ?_, ?_⟩
    · rwa [plainDialect, delimiter, quote]
    · rwa [plainDialect, delimiter]
    · rwa [plainDialect, quote]
  have rewritten (same : keptRows (readRows (persistedDialect inspection) text) =
        profiledRows lib text) :
      readRows (plainDialect inspection) (normalizeProfiledCells lib inspection text) =
          (profiledRows lib text).map (normalizeRow lib inspection.types) ↔
        ReturnsQuoted lib inspection text := by
    rw [normalizeProfiledCells, same, ← readable_iff_returnsQuoted regular h decoded]
    exact readRows_write_iff rfl rfl proper
  constructor
  · intro agree
    exact ⟨(rows_agree_iff regular h decoded).1 agree.rows, (rewritten agree.rows).1 agree.rewritten⟩
  · rintro ⟨quotes, returns⟩
    have same := (rows_agree_iff regular h decoded).2 quotes
    refine ⟨same, ?_, (rewritten same).2 returns⟩
    rw [same, profiled, p.rowCount]
    rfl

end Accepted

/-! ## Sniffed files -/

/-- A library for texts of ASCII characters, whose sniffer finds semicolons and no doubled quotes. -/
def CsvFileLibrary.sample : CsvFileLibrary where
  toCsvLibrary := .sample
  decode content := some (String.ofList (content.map fun byte => Char.ofNat byte.toNat))
  sniff _ := some { delimiter := ';', quote := '"', doubleQuote := false }
  isdigit := Char.isDigit
  quotesReturns := true

theorem sample_regular : CsvFileLibrary.sample.Regular where
  delimiter := by
    rintro _ _ ⟨⟩
    decide
  quote := by
    rintro _ _ ⟨⟩
    decide
  visible := by
    rintro _ _ ⟨⟩
    decide
  casefold s := by
    change '\r' ∈ (String.ofList (s.toList.map Char.toLower)).toList → _
    rw [String.toList_ofList, List.mem_map]
    rintro ⟨c, mem, folded⟩
    rcases toLower_cases c with same | ⟨-, -, lower⟩
    · rwa [← folded, same]
    · rw [folded] at lower
      change 13 = c.toNat + 32 at lower
      omega
  time := nofun

/-- The bytes of a text of ASCII characters. -/
def asciiBytes (text : String) : Bytes := text.toList.map fun c => UInt8.ofNat c.toNat

/-- Columns `a` and `b` with one row, whose second cell has a delimiter in quotes. -/
def separatedText : String := "a;b\n1;\"x;y\"\n"

/-- The same columns, with a doubled quote and a space after the closing quote. -/
def spacedText : String := "a;b\n1;\"x\"\"y\" \n"

def sampleInspection (sizeBytes : Nat) (sampleText : String) : CsvInspection where
  filename := "t.csv"
  sizeBytes
  rowCount := 1
  columns := [
    { name := "a", inferredType := .integer, populated := 1, nulls := 0, sampleText := "1" },
    { name := "b", inferredType := .text, populated := 1, nulls := 0, sampleText }]
  delimiter := ';'

theorem csv_parsers_agree_separated :
    ParsersAgree .sample (sampleInspection 12 "x;y") separatedText := by
  have accepted : inspectCsv .sample "t.csv" (asciiBytes separatedText) =
      .ok (sampleInspection 12 "x;y") := rfl
  have decoded : CsvFileLibrary.sample.decode (asciiBytes separatedText) = some separatedText := rfl
  have doubled : (dialectOf .sample separatedText).afterDoubled {} separatedText.toList = none := by
    decide
  refine (csv_parsers_agree_iff sample_regular accepted decoded).2 ⟨.inr ?_, .inl rfl⟩
  rw [doubled]
  exact nofun

/-- The second parser reads on after the closing quote, so it loses the quote that the profile has. -/
theorem csv_parsers_differ : ∃ inspection,
    inspectCsv .sample "t.csv" (asciiBytes spacedText) = .ok inspection ∧
      CsvFileLibrary.sample.decode (asciiBytes spacedText) = some spacedText ∧
      ¬ ParsersAgree .sample inspection spacedText := by
  refine ⟨sampleInspection 14 "x\"y\"", rfl, rfl, fun agree => ?_⟩
  exact absurd agree.rows (by decide)

end Csv

end DataMover
