import DataMover.Csv.Inference

/-!
# CSV profiles

What a profile says about the cells of its column, for every file that is accepted, and that it does
not depend on the order of the rows.  After any number of rows the running facts about a column are
those of the set of its populated values; whether a row is refused depends on the row alone.
-/

namespace DataMover

namespace Csv

/-! ## Types of cells -/

/-- What a text of a type is accepted by. -/
def Accepts (lib : CsvLibrary) (value : String) : CsvType → Prop
  | .boolean => lib.casefold value = "true" ∨ lib.casefold value = "false"
  | .integer => ∃ n, integerSpelling asciiDigit value.toList = some n ∧
      -2 ^ 63 ≤ n.toInt ∧ n.toInt < 2 ^ 63
  | .decimal => (numericSpelling asciiDigit value.toList).isSome
  | .date => datePattern value = true ∧ lib.dateFromIsoformat value = true
  | .time => lib.timeFromIsoformat value = some false
  | .datetime => lib.datetimeFromIsoformat (expandZulu value) = some false
  | .datetimeTz => lib.datetimeFromIsoformat (expandZulu value) = some true
  | .text => True
  | .empty => False

section Cells

variable {lib : CsvLibrary} {value : String}

theorem accepts_temporalType : Accepts lib value (temporalType lib value) := by
  unfold temporalType
  split_ifs with instant day parsed colon
  · split
    · rename_i aware h
      cases aware <;> exact h
    · trivial
  · exact ⟨day, parsed⟩
  · trivial
  · split
    · rename_i aware h
      cases aware
      · exact h
      · trivial
    · trivial
  · trivial

theorem accepts_decimalOrTemporalType : Accepts lib value (decimalOrTemporalType lib value) := by
  unfold decimalOrTemporalType
  split
  · rename_i n h
    split_ifs
    · trivial
    · change (numericSpelling asciiDigit value.toList).isSome
      rw [numericSpelling, h]
      simp
  · exact accepts_temporalType

/-- The parser of its type accepts a cell. -/
theorem accepts_valueType : Accepts lib value (valueType lib value) := by
  unfold valueType
  split_ifs with boolean
  · exact boolean
  · dsimp only
    split
    · rename_i n h
      split_ifs with padded long fits
      · exact accepts_decimalOrTemporalType
      · trivial
      · exact ⟨n, h, fits⟩
      · change (numericSpelling asciiDigit value.toList).isSome
        rw [numericSpelling, h]
        rfl
    · exact accepts_decimalOrTemporalType

/-- The type of a cell is that of its text, unless `Decimal` refuses it. -/
theorem accepts_cellFacts : Accepts lib value (cellFacts lib value).1 := by
  unfold cellFacts
  dsimp only
  split_ifs
  · split
    · exact accepts_valueType
    · trivial
  · exact accepts_valueType

/-- The decimal of a cell that counts as a number, with its digits. -/
theorem cellFacts_number (h : (cellFacts lib value).1 = .integer ∨ (cellFacts lib value).1 = .decimal) :
    ∃ negative coefficient exponent,
      decimalTuple value = some (.finite negative coefficient exponent) ∧
      (cellFacts lib value).2 = ((digitCount coefficient + exponent).toNat, (-exponent).toNat) := by
  unfold cellFacts at h ⊢
  dsimp only at h ⊢
  split_ifs at h ⊢ with number
  · split at h
    · rename_i negative coefficient exponent tuple
      exact ⟨negative, coefficient, exponent, tuple, rfl⟩
    · rcases h with h | h <;> cases h
  · exact absurd h number

/-- The number that a numeric text denotes. -/
def textValue (value : String) : Option ℚ :=
  (numericSpelling asciiDigit value.toList).map Numeral.value

theorem textValue_of_decimalTuple {negative : Bool} {coefficient : Nat} {exponent : Int}
    (h : decimalTuple value = some (.finite negative coefficient exponent)) :
    textValue value = some (scaledValue negative coefficient exponent) := by
  obtain ⟨n, spelling, decimal⟩ := Option.bind_eq_some_iff.1 h
  have denotes := Numeral.value_decimal decimal
  rw [textValue, spelling]
  exact denotes.symm

end Cells

/-! ## Columns -/

/-- The populated values of a column. -/
def values (cells : List String) : List String := (cells.map strip).filter (· ≠ "")

/-- The running facts are those of the cells. -/
structure Summarises (lib : CsvLibrary) (scan : ColumnScan) (cells : List String) : Prop where
  types : scan.types = (values cells).toFinset.image fun v => (cellFacts lib v).1
  populated : scan.populated = (values cells).length
  counted : scan.populated + scan.nulls = cells.length
  integerDigits : scan.integerDigits = (values cells).toFinset.sup fun v => (cellFacts lib v).2.1
  decimalScale : scan.decimalScale = (values cells).toFinset.sup fun v => (cellFacts lib v).2.2

section Columns

variable {lib : CsvLibrary} {scan scan' : ColumnScan} {cells cells' : List String}

theorem summarises_nil : Summarises lib {} [] := ⟨rfl, rfl, rfl, rfl, rfl⟩

theorem values_concat (raw : String) :
    values (cells ++ [raw]) = values cells ++ (if strip raw = "" then [] else [strip raw]) := by
  unfold values
  rw [List.map_append, List.filter_append]
  by_cases blank : strip raw = ""
  · simp [blank]
  · simp [blank]

/-- A cell that is accepted is short enough, and counted as a null or as a populated value. -/
theorem cell_ok_iff {maxCellCharacters : Nat} {raw : String} :
    scan.cell lib maxCellCharacters raw = .ok scan' ↔
      (strip raw).toList.length ≤ maxCellCharacters ∧ scan' =
        if strip raw = "" then { scan with nulls := scan.nulls + 1 }
        else { scan with
          populated := scan.populated + 1
          types := insert (cellFacts lib (strip raw)).1 scan.types
          integerDigits := max scan.integerDigits (cellFacts lib (strip raw)).2.1
          decimalScale := max scan.decimalScale (cellFacts lib (strip raw)).2.2
          sampleText := if scan.sampleText = "" then clip 80 (strip raw) else scan.sampleText } := by
  unfold ColumnScan.cell
  dsimp only
  by_cases long : maxCellCharacters < (strip raw).toList.length
  · simp [long, not_le.2 long]
  · rw [if_neg long]
    by_cases blank : strip raw = ""
    · rw [if_pos blank, if_pos blank, Except.ok.injEq, eq_comm]
      exact (and_iff_right (not_lt.1 long)).symm
    · rw [if_neg blank, if_neg blank, Except.ok.injEq, eq_comm]
      exact (and_iff_right (not_lt.1 long)).symm

/-- One more cell. -/
theorem Summarises.cell {maxCellCharacters : Nat} {raw : String} (h : Summarises lib scan cells)
    (ok : scan.cell lib maxCellCharacters raw = .ok scan') :
    Summarises lib scan' (cells ++ [raw]) := by
  obtain ⟨-, rfl⟩ := cell_ok_iff.1 ok
  have counted := h.counted
  by_cases blank : strip raw = ""
  · have same : values (cells ++ [raw]) = values cells := by
      rw [values_concat, if_pos blank, List.append_nil]
    rw [if_pos blank]
    refine ⟨?_, ?_, ?_, ?_, ?_⟩
    · rw [same, h.types]
    · rw [same, h.populated]
    · simp only [List.length_append, List.length_singleton]
      omega
    · rw [same, h.integerDigits]
    · rw [same, h.decimalScale]
  · have more : (values (cells ++ [raw])).toFinset = insert (strip raw) (values cells).toFinset := by
      rw [values_concat, if_neg blank, List.toFinset_append, Finset.union_comm]
      rfl
    rw [if_neg blank]
    refine ⟨?_, ?_, ?_, ?_, ?_⟩
    · rw [more, Finset.image_insert, h.types]
    · rw [values_concat, if_neg blank, List.length_append, h.populated]
      rfl
    · simp only [List.length_append, List.length_singleton]
      omega
    · rw [more, Finset.sup_insert, ← h.integerDigits]
      exact max_comm _ _
    · rw [more, Finset.sup_insert, ← h.decimalScale]
      exact max_comm _ _

/-- The facts about a value of a column are within those about the column. -/
theorem Summarises.value (h : Summarises lib scan cells) {v : String} (hv : v ∈ values cells) :
    (cellFacts lib v).1 ∈ scan.types ∧ (cellFacts lib v).2.1 ≤ scan.integerDigits ∧
      (cellFacts lib v).2.2 ≤ scan.decimalScale := by
  have mem := List.mem_toFinset.2 hv
  refine ⟨?_, ?_, ?_⟩
  · rw [h.types]
    exact Finset.mem_image_of_mem _ mem
  · rw [h.integerDigits]
    exact Finset.le_sup (f := fun v => (cellFacts lib v).2.1) mem
  · rw [h.decimalScale]
    exact Finset.le_sup (f := fun v => (cellFacts lib v).2.2) mem

/-- The cells decide the facts, in any order. -/
theorem Summarises.same (h : Summarises lib scan cells) (h' : Summarises lib scan' cells')
    (perm : cells.Perm cells') : { scan with sampleText := scan'.sampleText } = scan' := by
  have same : (values cells).Perm (values cells') := (perm.map strip).filter _
  have sets := List.toFinset_eq_of_perm _ _ same
  have populated : scan.populated = scan'.populated := by
    rw [h.populated, h'.populated, same.length_eq]
  have counted := h.counted
  have counted' := h'.counted
  have nulls : scan.nulls = scan'.nulls := by
    have := perm.length_eq
    omega
  obtain ⟨types, pop, null, sample, digits, scale⟩ := scan
  obtain ⟨types', pop', null', sample', digits', scale'⟩ := scan'
  cases populated
  cases nulls
  have ht : types = types' := h.types.trans (sets ▸ h'.types.symm)
  have hd : digits = digits' := h.integerDigits.trans (sets ▸ h'.integerDigits.symm)
  have hs : scale = scale' := h.decimalScale.trans (sets ▸ h'.decimalScale.symm)
  cases ht
  cases hd
  cases hs
  rfl

end Columns

/-! ## Rows -/

/-- The rows that count. -/
def countedRows (rows : List (List String)) : List (List String) :=
  rows.filter fun row => row ≠ [] && !blankRow row

/-- The cells of a column. -/
def column (j : Nat) (rows : List (List String)) : List String := rows.map fun row => row.getD j ""

/-- A row that is not refused: whether it is does not depend on the other rows. -/
def Acceptable (headers : List String) (maxCellCharacters : Nat) (row : List String) : Prop :=
  row = [] ∨ row.length = headers.length ∧
    (blankRow row = true ∨ ∀ raw ∈ row, (strip raw).toList.length ≤ maxCellCharacters)

/-- The running facts are those of the columns of some rows. -/
def SummariseColumns (lib : CsvLibrary) (scans : List ColumnScan) (rows : List (List String)) : Prop :=
  ∀ (j : Nat) scan, scans[j]? = some scan → Summarises lib scan (column j rows)

section Rows

variable {lib : CsvLibrary} {headers : List String} {maxCellCharacters : Nat}

variable (lib) in
/-- The cells of a row are scanned each into its own column. -/
theorem scanCells_ok {scans : List ColumnScan} {row : List String} (width : scans.length = row.length)
    (short : ∀ raw ∈ row, (strip raw).toList.length ≤ maxCellCharacters) :
    ∃ scans', scanCells lib maxCellCharacters scans row = .ok scans' ∧
      scans'.length = scans.length ∧ ∀ (j : Nat) scan', scans'[j]? = some scan' →
        ∃ scan raw, scans[j]? = some scan ∧ row[j]? = some raw ∧
          scan.cell lib maxCellCharacters raw = .ok scan' := by
  induction scans generalizing row with
  | nil =>
    cases row with
    | nil => exact ⟨[], rfl, rfl, nofun⟩
    | cons raw row => cases width
  | cons scan scans ih =>
    cases row with
    | nil => cases width
    | cons raw row =>
      obtain ⟨scans', rest, length, each⟩ := ih (Nat.succ.inj width) fun r hr =>
        short r (List.mem_cons_of_mem _ hr)
      obtain ⟨scan', first⟩ : ∃ scan', scan.cell lib maxCellCharacters raw = .ok scan' :=
        ⟨_, cell_ok_iff.2 ⟨short raw List.mem_cons_self, rfl⟩⟩
      refine ⟨scan' :: scans', ?_, congrArg (· + 1) length, ?_⟩
      · rw [scanCells, first]
        change (scanCells lib maxCellCharacters scans row >>= _) = _
        rw [rest]
        rfl
      · intro j next hj
        cases j with
        | zero =>
          cases hj
          exact ⟨scan, raw, rfl, rfl, first⟩
        | succ j => exact each j next hj

variable (lib) in
/-- A long cell is refused. -/
theorem scanCells_error {scans : List ColumnScan} {row : List String}
    (width : scans.length = row.length)
    (long : ∃ raw ∈ row, maxCellCharacters < (strip raw).toList.length) :
    ∃ e, scanCells lib maxCellCharacters scans row = .error e := by
  induction scans generalizing row with
  | nil =>
    cases row with
    | nil =>
      obtain ⟨raw, mem, -⟩ := long
      cases mem
    | cons raw row => cases width
  | cons scan scans ih =>
    cases row with
    | nil => cases width
    | cons raw row =>
      rw [scanCells]
      rcases first : scan.cell lib maxCellCharacters raw with e | scan'
      · exact ⟨e, rfl⟩
      · have fits := (cell_ok_iff.1 first).1
        have later : ∃ raw ∈ row, maxCellCharacters < (strip raw).toList.length := by
          obtain ⟨r, mem, hr⟩ := long
          rcases List.mem_cons.1 mem with rfl | mem
          · omega
          · exact ⟨r, mem, hr⟩
        obtain ⟨e, rest⟩ := ih (Nat.succ.inj width) later
        refine ⟨e, ?_⟩
        change (scanCells lib maxCellCharacters scans row >>= _) = _
        rw [rest]
        rfl

/-- A row joins the columns. -/
theorem SummariseColumns.row {scans scans' : List ColumnScan} {row : List String}
    {rows : List (List String)} (h : SummariseColumns lib scans rows)
    (each : ∀ (j : Nat) scan', scans'[j]? = some scan' → ∃ scan raw, scans[j]? = some scan ∧
      row[j]? = some raw ∧ scan.cell lib maxCellCharacters raw = .ok scan') :
    SummariseColumns lib scans' (rows ++ [row]) := by
  intro j scan' hj
  obtain ⟨scan, raw, hs, hr, ok⟩ := each j scan' hj
  have next := (h j scan hs).cell ok
  have cell : row.getD j "" = raw := by rw [List.getD_eq_getElem?_getD, hr]; rfl
  rw [column, List.map_append, List.map_singleton, cell]
  exact next

/-- Acceptable rows are scanned, and the facts are those of the rows that count. -/
theorem scanRows_ok {rows : List (List String)} {n : Nat} {scans : List ColumnScan}
    {seen : List (List String)} (width : scans.length = headers.length)
    (summary : SummariseColumns lib scans seen)
    (acceptable : ∀ row ∈ rows, Acceptable headers maxCellCharacters row) :
    ∃ scans', scanRows lib headers maxCellCharacters n scans rows =
        .ok (n + (countedRows rows).length, scans') ∧
      scans'.length = headers.length ∧ SummariseColumns lib scans' (seen ++ countedRows rows) := by
  induction rows generalizing n scans seen with
  | nil => exact ⟨scans, rfl, width, by rwa [countedRows, List.filter_nil, List.append_nil]⟩
  | cons row rows ih =>
    have rest := fun r hr => acceptable r (List.mem_cons_of_mem _ hr)
    rw [scanRows]
    rcases acceptable row List.mem_cons_self with rfl | ⟨fits, decided⟩
    · rw [if_pos rfl]
      exact ih width summary rest
    · by_cases none : row = []
      · rw [if_pos none, none]
        exact ih width summary rest
      · rw [if_neg none, if_neg (not_not.2 fits)]
        by_cases blank : blankRow row = true
        · have skipped : countedRows (row :: rows) = countedRows rows := by
            rw [countedRows, List.filter_cons_of_neg (by simp [blank])]
            rfl
          rw [if_pos blank, skipped]
          exact ih width summary rest
        · have counts : countedRows (row :: rows) = row :: countedRows rows := by
            rw [countedRows, List.filter_cons_of_pos (by simp [none, blank])]
            rfl
          have short := decided.resolve_left blank
          obtain ⟨next, ok, length, each⟩ := scanCells_ok lib (width.trans fits.symm) short
          obtain ⟨scans', final, length', summary'⟩ :=
            ih (n := n + 1) (length.trans width) (summary.row each) rest
          refine ⟨scans', ?_, length', ?_⟩
          · rw [if_neg blank, ok, counts, List.length_cons]
            change scanRows lib headers maxCellCharacters (n + 1) next rows = _
            rw [final, Nat.add_right_comm, Nat.add_assoc]
          · rw [List.append_assoc] at summary'
            rw [counts]
            exact summary'

variable (lib) in
/-- A row that is not acceptable makes the file refused. -/
theorem scanRows_error {rows : List (List String)} {n : Nat} {scans : List ColumnScan}
    (width : scans.length = headers.length)
    (refused : ∃ row ∈ rows, ¬ Acceptable headers maxCellCharacters row) :
    ∃ e, scanRows lib headers maxCellCharacters n scans rows = .error e := by
  induction rows generalizing n scans with
  | nil =>
    obtain ⟨row, mem, -⟩ := refused
    cases mem
  | cons row rows ih =>
    have later : Acceptable headers maxCellCharacters row →
        ∃ row ∈ rows, ¬ Acceptable headers maxCellCharacters row := by
      intro fine
      obtain ⟨r, mem, hr⟩ := refused
      rcases List.mem_cons.1 mem with rfl | mem
      · exact absurd fine hr
      · exact ⟨r, mem, hr⟩
    rw [scanRows]
    by_cases none : row = []
    · rw [if_pos none]
      exact ih width (later (.inl none))
    · rw [if_neg none]
      by_cases fits : row.length = headers.length
      · rw [if_neg (not_not.2 fits)]
        by_cases blank : blankRow row = true
        · rw [if_pos blank]
          exact ih width (later (.inr ⟨fits, .inl blank⟩))
        · rw [if_neg blank]
          by_cases short : ∀ raw ∈ row, (strip raw).toList.length ≤ maxCellCharacters
          · obtain ⟨next, ok, length, -⟩ := scanCells_ok lib (width.trans fits.symm) short
            rw [ok]
            exact ih (length.trans width) (later (.inr ⟨fits, .inr short⟩))
          · push Not at short
            obtain ⟨e, error⟩ := scanCells_error lib (width.trans fits.symm) short
            exact ⟨e, by rw [error]; rfl⟩
      · exact ⟨_, if_pos fits⟩

end Rows

/-! ## Profiles -/

/-- The types of cells that a column of a type may have. -/
def CsvType.admits : CsvType → Finset CsvType
  | .decimal => {.integer, .decimal}
  | .datetime => {.date, .datetime, .datetimeTz}
  | .text => {.boolean, .integer, .decimal, .date, .time, .datetime, .datetimeTz, .text, .empty}
  | .empty => ∅
  | type => {type}

/-- The cells of a column have types that its type admits. -/
theorem admits_mergeTypes (types : Finset CsvType) : types ⊆ (mergeTypes types).admits := by
  unfold mergeTypes
  split_ifs with h₀ h₁ h₂ h₃ h₄ h₅ h₆ h₇ h₈ h₉
  · exact h₀.le
  · exact h₁.le.trans (by decide)
  · exact h₂.le
  · exact h₃.le
  · exact h₄.le.trans (by decide)
  · exact h₅.le
  · exact h₆.le
  · exact h₇.le.trans (by decide)
  · exact h₈
  · exact h₉.trans (by decide)
  · intro type _
    cases type <;> decide

/-- A datetime column with a cell without offset has no cell with one. -/
theorem datetimeTz_notMem {types : Finset CsvType} (h : mergeTypes types = .datetime)
    (mixed : types ≠ {.datetimeTz}) : CsvType.datetimeTz ∉ types := by
  unfold mergeTypes at h
  rw [if_neg mixed] at h
  split_ifs at h with h₀ h₁ h₂ h₃ h₄ h₅ h₆ h₇ h₈
  · rw [h₆]
    decide
  · exact fun mem => absurd (h₈ mem) (by decide)

theorem mergeTypes_empty : mergeTypes ∅ = .empty := rfl

section Profile

variable {lib : CsvLibrary} {name : String} {scan scan' : ColumnScan} {profile : CsvColumnProfile}

/-- What a profile has from the running facts. -/
theorem columnProfile_ok (h : columnProfile name scan = .ok profile) :
    profile.inferredType = mergeTypes scan.types ∧ profile.populated = scan.populated ∧
      profile.nulls = scan.nulls ∧
      (profile.inferredType ≠ .decimal → profile.timezoneAware = decide (scan.types = {.datetimeTz})) ∧
      (profile.inferredType = .decimal → profile.timezoneAware = false ∧
        profile.decimalPrecision ≤ maxCsvDecimalPrecision ∧
        profile.decimalPrecision =
          max (max (scan.integerDigits + scan.decimalScale) scan.decimalScale) 1 ∧
        profile.decimalScale = scan.decimalScale) := by
  unfold columnProfile at h
  dsimp only at h
  by_cases type : mergeTypes scan.types = .decimal
  · rw [if_neg (not_not.2 type)] at h
    split_ifs at h with wide
    cases h
    exact ⟨rfl, rfl, rfl, fun other => absurd type other,
      fun _ => ⟨rfl, not_lt.1 wide, rfl, rfl⟩⟩
  · rw [if_pos type] at h
    cases h
    exact ⟨rfl, rfl, rfl, fun _ => rfl, fun decimal => absurd decimal type⟩

variable (name scan) in
/-- The example does not matter to the rest of a profile. -/
theorem columnProfile_sampleText (text : String) :
    columnProfile name { scan with sampleText := text } =
      (columnProfile name scan).map fun profile => { profile with sampleText := text } := by
  unfold columnProfile
  dsimp only
  split_ifs <;> rfl

end Profile

/-- What a profile says about the cells of its column. -/
structure CsvColumnProfile.Sound (lib : CsvLibrary) (profile : CsvColumnProfile) (rowCount : Nat)
    (cells : List String) : Prop where
  populated : profile.populated = (values cells).length
  counted : profile.populated + profile.nulls = rowCount
  integer : profile.inferredType = .integer → ∀ v ∈ values cells,
    ∃ k : ℤ, textValue v = some (k : ℚ) ∧ -2 ^ 63 ≤ k ∧ k < 2 ^ 63
  decimal : profile.inferredType = .decimal →
    1 ≤ profile.decimalPrecision ∧ profile.decimalPrecision ≤ 38 ∧
    profile.decimalScale ≤ profile.decimalPrecision ∧ ∀ v ∈ values cells, ∃ k : ℤ,
      |k| < 10 ^ profile.decimalPrecision ∧
      textValue v = some (k * (10 : ℚ) ^ (-(profile.decimalScale : ℤ)))
  boolean : profile.inferredType = .boolean → ∀ v ∈ values cells,
    lib.casefold v = "true" ∨ lib.casefold v = "false"
  date : profile.inferredType = .date → ∀ v ∈ values cells, lib.dateFromIsoformat v = true
  time : profile.inferredType = .time → ∀ v ∈ values cells, lib.timeFromIsoformat v = some false
  datetime : profile.inferredType = .datetime →
    (∀ v ∈ values cells, ∃ aware, lib.datetimeFromIsoformat (expandZulu v) = some aware) ∧
    (profile.timezoneAware = true ↔
      ∀ v ∈ values cells, lib.datetimeFromIsoformat (expandZulu v) = some true)
  aware : profile.timezoneAware = true → profile.inferredType = .datetime

section Soundness

variable {lib : CsvLibrary} {name : String} {scan scan' : ColumnScan} {profile : CsvColumnProfile}
  {cells : List String} {v : String}

/-- A value of a column has a type that the type of the column admits. -/
theorem Summarises.admits (h : Summarises lib scan cells) (hv : v ∈ values cells) :
    (cellFacts lib v).1 ∈ (mergeTypes scan.types).admits :=
  admits_mergeTypes scan.types (h.value hv).1

/-- A value of a column of one type only is accepted as one of that type. -/
theorem Summarises.accepts (h : Summarises lib scan cells) {type : CsvType}
    (merged : mergeTypes scan.types = type) (single : type.admits = {type}) (hv : v ∈ values cells) :
    Accepts lib v type := by
  have mem := h.admits hv
  rw [merged, single, Finset.mem_singleton] at mem
  exact mem ▸ accepts_cellFacts

/-- The text of a date has no `Z`. -/
theorem expandZulu_date (h : datePattern v = true) : expandZulu v = v := by
  have noZulu : ∀ c ∈ v.toList, c ≠ 'Z' := by
    rintro c mem rfl
    unfold datePattern datePrefix at h
    split at h
    · rename_i digits
      rw [digits] at mem
      split_ifs at h with shape
      · obtain ⟨all, rfl, rfl⟩ := shape
        have rest := Option.some.inj (of_decide_eq_true h)
        subst rest
        simp only [List.all_cons, List.all_nil, Bool.and_true, Bool.and_eq_true] at all
        simp only [List.mem_cons, List.not_mem_nil, or_false] at mem
        obtain ⟨a₁, a₂, a₃, a₄, a₅, a₆, a₇, a₈⟩ := all
        rcases mem with rfl | rfl | rfl | rfl | h | rfl | rfl | h | rfl | rfl <;> simp_all
      · cases h
    · cases h
  unfold expandZulu
  have same : v.toList.flatMap (fun c => if c = 'Z' then "+00:00".toList else [c]) = v.toList := by
    rw [List.flatMap_congr fun c hc => if_neg (noZulu c hc), List.flatMap_singleton']
  rw [same, String.ofList_toList]

/-- A number of a decimal column, at the scale of the column. -/
theorem Summarises.scaled (h : Summarises lib scan cells) (merged : mergeTypes scan.types = .decimal)
    (hv : v ∈ values cells) : ∃ k : ℤ, |k| < 10 ^ (scan.integerDigits + scan.decimalScale) ∧
      textValue v = some (k * (10 : ℚ) ^ (-(scan.decimalScale : ℤ))) := by
  obtain ⟨-, digitsLe, scaleLe⟩ := h.value hv
  have number := h.admits hv
  rw [merged] at number
  obtain ⟨negative, coefficient, exponent, tuple, facts⟩ :=
    cellFacts_number (by simpa [CsvType.admits] using number)
  rw [facts] at digitsLe scaleLe
  obtain ⟨k, small, value⟩ := scaledValue_eq negative digitsLe scaleLe
  exact ⟨k, small, (textValue_of_decimalTuple tuple).trans (congrArg some value)⟩

/-- Every value of a datetime column is a datetime, with an offset when its type says so. -/
theorem Summarises.datetime (h : Summarises lib scan cells)
    (merged : mergeTypes scan.types = .datetime) (hv : v ∈ values cells) :
    lib.datetimeFromIsoformat (expandZulu v) =
      some (decide ((cellFacts lib v).1 = .datetimeTz)) := by
  have type := h.admits hv
  have accepted : Accepts lib v (cellFacts lib v).1 := accepts_cellFacts
  rw [merged] at type
  simp only [CsvType.admits, Finset.mem_insert, Finset.mem_singleton] at type
  rcases type with e | e | e <;> rw [e] at accepted ⊢
  · rw [expandZulu_date accepted.1]
    exact lib.datetime_of_date v accepted.1 accepted.2
  · exact accepted
  · exact accepted

/-- The profile of summarised cells is sound. -/
theorem Summarises.sound (h : Summarises lib scan cells) (ok : columnProfile name scan = .ok profile) :
    profile.Sound lib cells.length cells := by
  obtain ⟨type, populated, nulls, other, decimal⟩ := columnProfile_ok ok
  refine ⟨populated.trans h.populated, ?_, ?_, ?_, ?_, ?_, ?_, ?_, ?_⟩
  · rw [populated, nulls]
    exact h.counted
  · intro integer v hv
    obtain ⟨n, spelling, low, high⟩ := h.accepts (type.symm.trans integer) rfl hv
    refine ⟨n.toInt, ?_, low, high⟩
    rw [textValue, numericSpelling, spelling]
    exact congrArg some (integerSpelling_value spelling)
  · intro isDecimal
    obtain ⟨-, narrow, precision, scale⟩ := decimal isDecimal
    have bound : maxCsvDecimalPrecision = 38 := rfl
    refine ⟨by omega, by omega, by omega, fun v hv => ?_⟩
    obtain ⟨k, small, value⟩ := h.scaled (type.symm.trans isDecimal) hv
    refine ⟨k, small.trans_le (pow_le_pow_right₀ (by decide) (by omega)), ?_⟩
    rw [scale]
    exact value
  · exact fun boolean v hv => h.accepts (type.symm.trans boolean) rfl hv
  · exact fun date v hv => (h.accepts (type.symm.trans date) rfl hv).2
  · exact fun time v hv => h.accepts (type.symm.trans time) rfl hv
  · intro datetime
    have merged := type.symm.trans datetime
    have each := fun v hv => h.datetime (v := v) merged hv
    refine ⟨fun v hv => ⟨_, each v hv⟩, ?_⟩
    rw [other (by rw [datetime]; decide), decide_eq_true_iff]
    constructor
    · intro aware v hv
      have tz := (h.value hv).1
      rw [aware, Finset.mem_singleton] at tz
      rw [each v hv, tz]
      rfl
    · intro all
      by_contra mixed
      have absent := datetimeTz_notMem merged mixed
      have nonempty : scan.types ≠ ∅ := by
        rintro empty
        rw [empty, mergeTypes_empty] at merged
        cases merged
      obtain ⟨t, ht⟩ := Finset.nonempty_iff_ne_empty.2 nonempty
      rw [h.types] at ht
      obtain ⟨v, hv, -⟩ := Finset.mem_image.1 ht
      have hv := List.mem_toFinset.1 hv
      have aware := (each v hv).symm.trans (all v hv)
      have tz := of_decide_eq_true (Option.some.inj aware)
      exact absent (tz ▸ (h.value hv).1)
  · intro aware
    by_cases isDecimal : profile.inferredType = .decimal
    · rw [(decimal isDecimal).1] at aware
      cases aware
    · rw [other isDecimal, decide_eq_true_iff] at aware
      rw [type, aware]
      rfl

end Soundness

/-! ## Main results -/

section Files

variable {lib : CsvLibrary} {headers : List String} {maxCellCharacters : Nat}

/-- Each profile is that of its own column. -/
theorem columnProfiles_ok {scans : List ColumnScan} {profiles : List CsvColumnProfile}
    (h : columnProfiles headers scans = .ok profiles) (width : scans.length = headers.length) :
    profiles.length = headers.length ∧ ∀ (j : Nat) profile, profiles[j]? = some profile →
      ∃ name scan, headers[j]? = some name ∧ scans[j]? = some scan ∧
        columnProfile name scan = .ok profile := by
  induction headers generalizing scans profiles with
  | nil =>
    cases scans with
    | nil =>
      cases h
      exact ⟨rfl, nofun⟩
    | cons scan scans => cases width
  | cons name headers ih =>
    cases scans with
    | nil => cases width
    | cons scan scans =>
      obtain ⟨profile, first, h⟩ := bind_eq_ok.1 h
      obtain ⟨rest, ok, h⟩ := bind_eq_ok.1 h
      cases h
      obtain ⟨length, each⟩ := ih ok (Nat.succ.inj width)
      refine ⟨congrArg (· + 1) length, ?_⟩
      intro j next hj
      cases j with
      | zero =>
        cases hj
        exact ⟨name, scan, rfl, rfl, first⟩
      | succ j => exact each j next hj

/-- Two profiles that differ in the example text only. -/
def SameProfile (p q : CsvColumnProfile) : Prop := { p with sampleText := q.sampleText } = q

variable (headers) in
/-- Facts that differ in the example texts lead to the same profiles, or to a refusal both times. -/
theorem columnProfiles_same {scans scans' : List ColumnScan}
    (same : List.Forall₂ (fun s t => { s with sampleText := t.sampleText } = t) scans scans') :
    (∃ e e', columnProfiles headers scans = .error e ∧ columnProfiles headers scans' = .error e') ∨
    ∃ profiles profiles', columnProfiles headers scans = .ok profiles ∧
      columnProfiles headers scans' = .ok profiles' ∧
      List.Forall₂ SameProfile profiles profiles' := by
  induction same generalizing headers with
  | nil =>
    refine .inr ⟨[], [], ?_, ?_, .nil⟩ <;> cases headers <;> rfl
  | cons first rest ih =>
    rename_i scan scan' scans scans'
    cases headers with
    | nil => exact .inr ⟨[], [], rfl, rfl, .nil⟩
    | cons name headers =>
      have moved := columnProfile_sampleText name scan scan'.sampleText
      rw [first] at moved
      rcases here : columnProfile name scan with e | profile
      · rw [here] at moved
        exact .inl ⟨e, e, by rw [columnProfiles, here]; rfl, by rw [columnProfiles, moved]; rfl⟩
      · rw [here] at moved
        rcases ih headers with ⟨e, e', error, error'⟩ | ⟨ps, ps', ok, ok', all⟩
        · refine .inl ⟨e, e', ?_, ?_⟩
          · rw [columnProfiles, here, error]
            rfl
          · rw [columnProfiles, moved, error']
            rfl
        · refine .inr ⟨profile :: ps, { profile with sampleText := scan'.sampleText } :: ps', ?_, ?_,
            .cons rfl all⟩
          · rw [columnProfiles, here, ok]
            rfl
          · rw [columnProfiles, moved, ok']
            rfl

theorem countedRows_perm {rows rows' : List (List String)} (perm : rows.Perm rows') :
    (countedRows rows).Perm (countedRows rows') :=
  perm.filter _

variable (lib) in
/-- Before the first row, the facts are those of no rows. -/
theorem summariseColumns_start :
    SummariseColumns lib (List.replicate headers.length {}) [] := by
  intro j scan h
  rw [List.eq_of_mem_replicate (List.mem_of_getElem? h)]
  exact summarises_nil

variable (lib) in
/-- The scan of an acceptable file. -/
theorem scanRows_start {rows : List (List String)}
    (acceptable : ∀ row ∈ rows, Acceptable headers maxCellCharacters row) :
    ∃ scans, scanRows lib headers maxCellCharacters 0 (List.replicate headers.length {}) rows =
        .ok ((countedRows rows).length, scans) ∧
      scans.length = headers.length ∧ SummariseColumns lib scans (countedRows rows) := by
  obtain ⟨scans, ok, width, summary⟩ :=
    scanRows_ok (List.length_replicate) (summariseColumns_start lib) acceptable
  rw [Nat.zero_add] at ok
  exact ⟨scans, ok, width, summary⟩

/-- The profiles of a file whose rows have been scanned. -/
theorem profileCsvRows_of_scan {rows : List (List String)} {n : Nat} {scans : List ColumnScan}
    (ok : scanRows lib headers maxCellCharacters 0 (List.replicate headers.length {}) rows =
      .ok (n, scans)) :
    profileCsvRows lib headers maxCellCharacters rows =
      (columnProfiles headers scans).map fun columns => (n, columns) := by
  rw [profileCsvRows, ok]
  change (columnProfiles headers scans >>= _) = _
  cases columnProfiles headers scans <;> rfl

/-- An accepted file: its rows are acceptable, and each profile is that of summarised cells. -/
theorem profileCsvRows_ok {rows : List (List String)} {rowCount : Nat}
    {columns : List CsvColumnProfile}
    (h : profileCsvRows lib headers maxCellCharacters rows = .ok (rowCount, columns)) :
    (∀ row ∈ rows, Acceptable headers maxCellCharacters row) ∧
      rowCount = (countedRows rows).length ∧ columns.length = headers.length ∧
      ∀ (j : Nat) profile, columns[j]? = some profile → ∃ name scan,
        Summarises lib scan (column j (countedRows rows)) ∧
          columnProfile name scan = .ok profile := by
  have acceptable : ∀ row ∈ rows, Acceptable headers maxCellCharacters row := by
    by_contra refused
    push Not at refused
    obtain ⟨e, error⟩ := scanRows_error lib (n := 0) List.length_replicate refused
    rw [profileCsvRows, error] at h
    cases h
  obtain ⟨scans, ok, width, summary⟩ := scanRows_start lib acceptable
  rw [profileCsvRows_of_scan ok] at h
  obtain ⟨profiles, hp, same⟩ := map_eq_ok.1 h
  cases same
  obtain ⟨length, each⟩ := columnProfiles_ok hp width
  refine ⟨acceptable, rfl, length, fun j profile hj => ?_⟩
  obtain ⟨name, scan, -, hs, profiled⟩ := each j profile hj
  exact ⟨name, scan, summary j scan hs, profiled⟩

/-- In every accepted file the profiles say what holds of the cells of their columns. -/
theorem csv_profiles_are_sound {rows : List (List String)} {rowCount : Nat}
    {columns : List CsvColumnProfile}
    (h : profileCsvRows lib headers maxCellCharacters rows = .ok (rowCount, columns)) :
    columns.length = headers.length ∧ ∀ (j : Nat) profile, columns[j]? = some profile →
      profile.Sound lib rowCount (column j (countedRows rows)) := by
  obtain ⟨-, rfl, length, each⟩ := profileCsvRows_ok h
  refine ⟨length, fun j profile hj => ?_⟩
  obtain ⟨name, scan, summary, profiled⟩ := each j profile hj
  have sound := summary.sound profiled
  rwa [column, List.length_map] at sound

/-- A file with its rows in another order is refused as well, or has the same number of rows and the
same profiles up to the example texts. -/
theorem csv_inference_ignores_row_order {rows rows' : List (List String)} (perm : rows.Perm rows') :
    (∃ e e', profileCsvRows lib headers maxCellCharacters rows = .error e ∧
      profileCsvRows lib headers maxCellCharacters rows' = .error e') ∨
    ∃ rowCount columns columns',
      profileCsvRows lib headers maxCellCharacters rows = .ok (rowCount, columns) ∧
      profileCsvRows lib headers maxCellCharacters rows' = .ok (rowCount, columns') ∧
      List.Forall₂ SameProfile columns columns' := by
  by_cases acceptable : ∀ row ∈ rows, Acceptable headers maxCellCharacters row
  · have acceptable' : ∀ row ∈ rows', Acceptable headers maxCellCharacters row :=
      fun row hr => acceptable row (perm.mem_iff.2 hr)
    obtain ⟨scans, ok, width, summary⟩ := scanRows_start lib acceptable
    obtain ⟨scans', ok', width', summary'⟩ := scanRows_start lib acceptable'
    have counted := countedRows_perm perm
    have same : List.Forall₂ (fun s t : ColumnScan => { s with sampleText := t.sampleText } = t)
        scans scans' := by
      refine List.forall₂_iff_get.2 ⟨width.trans width'.symm, fun j hj hj' => ?_⟩
      have here := summary j _ (List.getElem?_eq_getElem hj)
      have there := summary' j _ (List.getElem?_eq_getElem hj')
      exact here.same there (counted.map _)
    rcases columnProfiles_same headers same with
      ⟨e, e', error, error'⟩ | ⟨profiles, profiles', done, done', all⟩
    · refine .inl ⟨e, e', ?_, ?_⟩
      · rw [profileCsvRows_of_scan ok, error]
        rfl
      · rw [profileCsvRows_of_scan ok', error']
        rfl
    · refine .inr ⟨(countedRows rows).length, profiles, profiles', ?_, ?_, all⟩
      · rw [profileCsvRows_of_scan ok, done]
        rfl
      · rw [profileCsvRows_of_scan ok', counted.length_eq, done']
        rfl
  · refine .inl ?_
    push Not at acceptable
    obtain ⟨e, error⟩ := scanRows_error lib (n := 0) List.length_replicate acceptable
    have moved : ∃ row ∈ rows', ¬ Acceptable headers maxCellCharacters row := by
      obtain ⟨row, mem, refused⟩ := acceptable
      exact ⟨row, perm.mem_iff.1 mem, refused⟩
    obtain ⟨e', error'⟩ := scanRows_error lib (n := 0) List.length_replicate moved
    refine ⟨e, e', ?_, ?_⟩
    · rw [profileCsvRows, error]
      rfl
    · rw [profileCsvRows, error']
      rfl

end Files

/-! ## A small file -/

/-- A library that knows dates. -/
def CsvLibrary.sample : CsvLibrary where
  casefold s := String.ofList (s.toList.map Char.toLower)
  dateFromIsoformat := datePattern
  datetimeFromIsoformat text := if datePattern text then some false else none
  timeFromIsoformat _ := none
  datetime_of_date _ pattern _ := if_pos pattern

def sampleRows : List (List String) := [["7", "2024-01-31"], [], [" 1.50", " "]]

def sampleProfiles : List CsvColumnProfile := [
  { name := "price", inferredType := .decimal, populated := 2, nulls := 0, sampleText := "7",
    decimalPrecision := 3, decimalScale := 2 },
  { name := "day", inferredType := .date, populated := 1, nulls := 1, sampleText := "2024-01-31" }]

theorem profile_sampleRows :
    profileCsvRows .sample ["price", "day"] 20 sampleRows = .ok (2, sampleProfiles) := rfl

theorem csv_profiles_are_sound_price : sampleProfiles.length = ["price", "day"].length ∧
    ∀ (j : Nat) profile, sampleProfiles[j]? = some profile →
      profile.Sound .sample 2 (column j (countedRows sampleRows)) :=
  csv_profiles_are_sound profile_sampleRows

theorem csv_inference_ignores_row_order_price : ∃ columns,
    profileCsvRows .sample ["price", "day"] 20 sampleRows.reverse = .ok (2, columns) ∧
      List.Forall₂ SameProfile sampleProfiles columns := by
  rcases csv_inference_ignores_row_order (List.reverse_perm sampleRows).symm with
    ⟨e, e', error, -⟩ | ⟨n, columns, columns', ok, ok', same⟩
  · cases error.symm.trans profile_sampleRows
  · cases ok.symm.trans profile_sampleRows
    exact ⟨columns', ok', same⟩

end Csv

end DataMover
