import Mathlib

/-!
# Delimited text

The reader and the writer of Python's `csv` module, for minimal quoting without an escape character.
The reader goes through the lines of a text character by character; a record ends with the line in
which no quoted field is open.  What the reader makes of a record is read off its head: the next record
starts with the fields saved so far.
-/

namespace Delimited

/-- `csv.Dialect`. -/
structure Dialect where
  delimiter : Char
  quote : Char
  skipInitialSpace : Bool := false
  doubleQuote : Bool := true
  deriving DecidableEq

/-! ## Reading -/

/-- The states of the parser. -/
inductive State where
  | startRecord
  | startField
  | inField
  | inQuotedField
  | quoteInQuotedField
  | eatNewline
  deriving DecidableEq

/-- A parser inside a record: the fields that it has saved, and the field that it reads. -/
structure Reader where
  state : State := .startRecord
  fields : List (List Char) := []
  field : List Char := []

/-- `parse_save_field`. -/
def Reader.save (r : Reader) (state : State) : Reader :=
  { state, fields := r.fields ++ [r.field], field := [] }

/-- `parse_add_char`. -/
def Reader.add (r : Reader) (c : Char) (state : State) : Reader :=
  { r with state, field := r.field ++ [c] }

def isNewline (c : Char) : Bool := c = '\n' || c = '\r'

namespace Dialect

variable (d : Dialect)

/-- `START_FIELD`; `none` is the end of a line. -/
def startField (r : Reader) : Option Char → Reader
  | none => r.save .startRecord
  | some c =>
    if isNewline c then r.save .eatNewline
    else if c = d.quote then { r with state := .inQuotedField }
    else if c = ' ' ∧ d.skipInitialSpace = true then { r with state := .startField }
    else if c = d.delimiter then r.save .startField
    else r.add c .inField

/-- `parse_process_char`.  After a line terminator the line ends, so nothing else is eaten. -/
def step (r : Reader) (e : Option Char) : Reader :=
  match r.state, e with
  | .startRecord, none => r
  | .startRecord, some c =>
    if isNewline c then { r with state := .eatNewline } else d.startField r (some c)
  | .startField, e => d.startField r e
  | .inField, none => r.save .startRecord
  | .inField, some c =>
    if isNewline c then r.save .eatNewline
    else if c = d.delimiter then r.save .startField
    else r.add c .inField
  | .inQuotedField, none => r
  | .inQuotedField, some c =>
    if c = d.quote then
      { r with state := if d.doubleQuote then .quoteInQuotedField else .inField }
    else r.add c .inQuotedField
  | .quoteInQuotedField, none => r.save .startRecord
  | .quoteInQuotedField, some c =>
    if c = d.quote then r.add c .inQuotedField
    else if c = d.delimiter then r.save .startField
    else if isNewline c then r.save .eatNewline
    else r.add c .inField
  | .eatNewline, none => { r with state := .startRecord }
  | .eatNewline, some _ => r

/-- A line of `io.StringIO(text, newline="")` ends after this character. -/
def lineEnds (c : Char) (rest : List Char) : Bool :=
  c = '\n' || (c = '\r' && rest.head? ≠ some '\n') || rest.isEmpty

/-- What is left of a record at the end of the text. -/
def finish (r : Reader) : List (List (List Char)) :=
  if r.field ≠ [] ∨ r.state = .inQuotedField then [r.fields ++ [r.field]] else []

/-- The records of a text, with one under way. -/
def read : Reader → List Char → List (List (List Char))
  | r, [] => finish r
  | r, c :: cs =>
    let r := d.step r (some c)
    if lineEnds c cs then
      let r := d.step r none
      if r.state = .startRecord then r.fields :: read {} cs else read r cs
    else read r cs

/-- `csv.reader(io.StringIO(text, newline=""))`. -/
def rows (text : List Char) : List (List (List Char)) := d.read {} text

/-! ## Writing -/

/-- A cell that is quoted; some releases quote every carriage return. -/
def quotes (returns : Bool) (cell : List Char) : Bool :=
  cell.any fun c => c = d.delimiter || c = d.quote || c = '\n' || (returns && c = '\r')

/-- The characters of a quoted cell, with each quote doubled. -/
def escape (cell : List Char) : List Char :=
  cell.flatMap fun c => if c = d.quote then [c, c] else [c]

def writeCell (returns : Bool) (cell : List Char) : List Char :=
  if d.quotes returns cell then d.quote :: d.escape cell ++ [d.quote] else cell

def joinCells (returns : Bool) : List (List Char) → List Char
  | [] => []
  | [cell] => d.writeCell returns cell
  | cell :: cells => d.writeCell returns cell ++ d.delimiter :: joinCells returns cells

/-- `writer.writerow(row)`, with `lineterminator="\n"`; a single empty cell is quoted. -/
def writeRow (returns : Bool) (row : List (List Char)) : List Char :=
  (if row = [[]] then [d.quote, d.quote] else d.joinCells returns row) ++ ['\n']

def write (returns : Bool) (rows : List (List (List Char))) : List Char :=
  rows.flatMap (d.writeRow returns)

/-- The delimiter and the quote are different characters of a line. -/
structure Proper : Prop where
  distinct : d.delimiter ≠ d.quote
  delimiter : isNewline d.delimiter = false
  quote : isNewline d.quote = false

end Dialect

/-! ## Steps of the reader -/

section Steps

variable {d : Dialect} {r : Reader} {c : Char} {cs rest : List Char}

attribute [local simp] Dialect.step

theorem lineEnds_eq_false (line : isNewline c = false) (more : cs ≠ []) :
    Dialect.lineEnds c cs = false := by
  simp only [isNewline, Bool.or_eq_false_iff, decide_eq_false_iff_not] at line
  simp [Dialect.lineEnds, line, more]

theorem read_of_open (h : Dialect.lineEnds c cs = false) :
    d.read r (c :: cs) = d.read (d.step r (some c)) cs := by
  rw [Dialect.read, h]
  rfl

theorem step_quoted_end (hs : r.state = .inQuotedField) : d.step r none = r := by
  simp [Dialect.step, hs]

/-- A line may end inside a quoted field. -/
theorem read_of_quoted (h : (d.step r (some c)).state = .inQuotedField) :
    d.read r (c :: cs) = d.read (d.step r (some c)) cs := by
  rw [Dialect.read]
  dsimp only
  rw [step_quoted_end h, h]
  simp

/-- In these states a delimiter or a newline saves the field. -/
def Saves (state : State) : Prop :=
  state = .startField ∨ state = .inField ∨ state = .quoteInQuotedField

theorem step_newline (hs : Saves r.state) (proper : d.Proper) (hc : isNewline c = true) :
    d.step r (some c) = r.save .eatNewline := by
  have notQuote : c ≠ d.quote := by
    rintro rfl
    rw [proper.quote] at hc
    cases hc
  have notDelimiter : c ≠ d.delimiter := by
    rintro rfl
    rw [proper.delimiter] at hc
    cases hc
  rcases hs with h | h | h
  · simp [Dialect.step, h, Dialect.startField, hc]
  · simp [Dialect.step, h, hc]
  · simp [Dialect.step, h, hc, notQuote, notDelimiter]

theorem step_end (hs : Saves r.state) : d.step r none = r.save .startRecord := by
  rcases hs with h | h | h <;> simp [Dialect.step, h, Dialect.startField]

/-- The end of a line that ended a record. -/
theorem read_newline (hs : Saves r.state) (proper : d.Proper) :
    d.read r ('\n' :: rest) = (r.fields ++ [r.field]) :: d.read {} rest := by
  have ends : Dialect.lineEnds '\n' rest = true := rfl
  rw [Dialect.read, ends, step_newline hs proper rfl]
  rfl

theorem step_delimiter (hs : Saves r.state ∨ r.state = .startRecord) (proper : d.Proper)
    (visible : d.skipInitialSpace = false) :
    d.step r (some d.delimiter) = r.save .startField := by
  have line := proper.delimiter
  have distinct := proper.distinct
  rcases hs with (h | h | h) | h
  · simp [Dialect.step, h, Dialect.startField, line, distinct, visible]
  · simp [Dialect.step, h, line]
  · simp [Dialect.step, h, distinct]
  · simp [Dialect.step, h, Dialect.startField, line, distinct, visible]

/-- A delimiter, with more to come. -/
theorem read_delimiter (hs : Saves r.state ∨ r.state = .startRecord) (proper : d.Proper)
    (visible : d.skipInitialSpace = false) (more : rest ≠ []) :
    d.read r (d.delimiter :: rest) = d.read (r.save .startField) rest := by
  rw [read_of_open (lineEnds_eq_false proper.delimiter more), step_delimiter hs proper visible]

/-- A field starts with a character of its own. -/
theorem step_first (hs : r.state = .startField ∨ r.state = .startRecord)
    (visible : d.skipInitialSpace = false) (hc : isNewline c = false) (quote : c ≠ d.quote)
    (delimiter : c ≠ d.delimiter) : d.step r (some c) = r.add c .inField := by
  rcases hs with h | h <;>
    simp [Dialect.step, h, Dialect.startField, hc, quote, delimiter, visible]

theorem step_quote (hs : r.state = .startField ∨ r.state = .startRecord) (proper : d.Proper) :
    d.step r (some d.quote) = { r with state := .inQuotedField } := by
  have line := proper.quote
  rcases hs with h | h <;> simp [Dialect.step, h, Dialect.startField, line]

end Steps

/-! ## Reading what was written -/

section RoundTrip

variable {d : Dialect} {r : Reader} {c : Char} {cell rest : List Char} {returns : Bool}

/-- The characters of a field that is not quoted. -/
theorem read_plain (hs : r.state = .inField) (line : ∀ c ∈ cell, isNewline c = false)
    (delimiter : d.delimiter ∉ cell) (more : rest ≠ []) :
    d.read r (cell ++ rest) = d.read { r with field := r.field ++ cell } rest := by
  induction cell generalizing r with
  | nil => rw [List.nil_append, List.append_nil]
  | cons c cell ih =>
    have hc := line c List.mem_cons_self
    have other : c ≠ d.delimiter := fun e => delimiter (e ▸ List.mem_cons_self)
    have stepped : d.step r (some c) = r.add c .inField := by
      simp [Dialect.step, hs, hc, other]
    rw [List.cons_append, read_of_open (lineEnds_eq_false hc (by simp [more])), stepped,
      ih rfl (fun b hb => line b (List.mem_cons_of_mem _ hb))
        fun hb => delimiter (List.mem_cons_of_mem _ hb)]
    simp [Reader.add, hs]

/-- The escaped characters of a quoted field. -/
theorem read_escape (hs : r.state = .inQuotedField) (doubled : d.doubleQuote = true)
    (proper : d.Proper) :
    d.read r (d.escape cell ++ rest) = d.read { r with field := r.field ++ cell } rest := by
  induction cell generalizing r with
  | nil => rw [List.append_nil]; rfl
  | cons c cell ih =>
    have joined : d.escape (c :: cell) = (if c = d.quote then [c, c] else [c]) ++ d.escape cell :=
      List.flatMap_cons
    by_cases hc : c = d.quote
    · subst hc
      have closes : d.step r (some d.quote) = { r with state := .quoteInQuotedField } := by
        simp [Dialect.step, hs, doubled]
      have opens : d.step { r with state := .quoteInQuotedField } (some d.quote) =
          r.add d.quote .inQuotedField := by
        simp [Dialect.step, Reader.add]
      rw [joined, if_pos rfl, List.append_assoc, List.cons_append, List.cons_append,
        read_of_open (lineEnds_eq_false proper.quote (List.cons_ne_nil _ _)), closes,
        read_of_quoted (by rw [opens]; rfl), opens, List.nil_append, ih rfl]
      simp [Reader.add, hs]
    · have added : d.step r (some c) = r.add c .inQuotedField := by
        simp [Dialect.step, hs, hc]
      rw [joined, if_neg hc, List.append_assoc, List.cons_append,
        read_of_quoted (by rw [added]; rfl), added, List.nil_append, ih rfl]
      simp [Reader.add, hs]

/-- A cell that is read back: it is quoted, or no carriage return ends its line. -/
def Readable (d : Dialect) (returns : Bool) (cell : List Char) : Prop :=
  d.quotes returns cell = true ∨ '\r' ∉ cell

/-- A cell that is not quoted has no delimiter, no quote and no line feed. -/
theorem not_quotes (h : d.quotes returns cell = false) :
    d.delimiter ∉ cell ∧ d.quote ∉ cell ∧ '\n' ∉ cell := by
  rw [Dialect.quotes, List.any_eq_false] at h
  refine ⟨fun hc => h _ hc ?_, fun hc => h _ hc ?_, fun hc => h _ hc ?_⟩ <;> simp

/-- All cells are readable where the writer quotes carriage returns, and elsewhere those in which one
comes with a character that is quoted. -/
theorem readable_iff : Readable d returns cell ↔ returns = true ∨
    ('\r' ∈ cell → d.delimiter ∈ cell ∨ d.quote ∈ cell ∨ '\n' ∈ cell) := by
  have quoted : d.quotes returns cell = true ↔ d.delimiter ∈ cell ∨ d.quote ∈ cell ∨ '\n' ∈ cell ∨
      '\r' ∈ cell ∧ returns = true := by
    simp [Dialect.quotes, List.any_eq_true, and_or_left, exists_or, or_assoc]
  rw [Readable, quoted]
  tauto

/-- A written cell that is not empty leaves the reader at its end. -/
theorem read_writeCell (hs : r.state = .startField ∨ r.state = .startRecord) (empty : r.field = [])
    (doubled : d.doubleQuote = true) (visible : d.skipInitialSpace = false) (proper : d.Proper)
    (readable : Readable d returns cell) (nonempty : cell ≠ []) (more : rest ≠ []) :
    ∃ state, Saves state ∧ d.read r (d.writeCell returns cell ++ rest) =
      d.read { r with state, field := cell } rest := by
  rw [Dialect.writeCell]
  by_cases quoted : d.quotes returns cell = true
  · refine ⟨.quoteInQuotedField, .inr (.inr rfl), ?_⟩
    have closes : d.step { r with state := .inQuotedField, field := r.field ++ cell } (some d.quote) =
        { r with state := .quoteInQuotedField, field := r.field ++ cell } := by
      simp [Dialect.step, doubled]
    rw [if_pos quoted, List.cons_append, List.cons_append,
      read_of_quoted (by rw [step_quote hs proper]), step_quote hs proper, List.append_assoc,
      read_escape rfl doubled proper, List.cons_append, List.nil_append,
      read_of_open (lineEnds_eq_false proper.quote more), closes, empty, List.nil_append]
  · refine ⟨.inField, .inr (.inl rfl), ?_⟩
    rw [Bool.not_eq_true] at quoted
    obtain ⟨delimiter, quote, feed⟩ := not_quotes quoted
    have noReturn : '\r' ∉ cell := readable.resolve_left (by simp [quoted])
    have line : ∀ c ∈ cell, isNewline c = false := by
      intro c hc
      simp only [isNewline, Bool.or_eq_false_iff, decide_eq_false_iff_not]
      exact ⟨fun e => feed (e ▸ hc), fun e => noReturn (e ▸ hc)⟩
    cases cell with
    | nil => exact absurd rfl nonempty
    | cons c cell =>
      have hc := line c List.mem_cons_self
      have first := step_first hs visible hc (fun e => quote (e ▸ List.mem_cons_self))
        fun e => delimiter (e ▸ List.mem_cons_self)
      rw [if_neg (by simp [quoted]), List.cons_append,
        read_of_open (lineEnds_eq_false hc (by simp [more])), first,
        read_plain rfl (fun b hb => line b (List.mem_cons_of_mem _ hb))
          (fun hb => delimiter (List.mem_cons_of_mem _ hb)) more]
      simp [Reader.add, empty]

theorem joinCells_cons (cell next : List Char) (cells : List (List Char)) :
    d.joinCells returns (cell :: next :: cells) =
      d.writeCell returns cell ++ d.delimiter :: d.joinCells returns (next :: cells) := by
  rw [Dialect.joinCells]
  exact List.cons_ne_nil _ _

/-- A written cell is read back, and then the next one starts. -/
theorem read_joinCells_cons {next : List Char} {cells : List (List Char)}
    (hs : r.state = .startField ∨ r.state = .startRecord) (empty : r.field = [])
    (doubled : d.doubleQuote = true) (visible : d.skipInitialSpace = false) (proper : d.Proper)
    (readable : Readable d returns cell) :
    d.read r (d.joinCells returns (cell :: next :: cells) ++ '\n' :: rest) =
      d.read ⟨.startField, r.fields ++ [cell], []⟩
        (d.joinCells returns (next :: cells) ++ '\n' :: rest) := by
  have more : d.joinCells returns (next :: cells) ++ '\n' :: rest ≠ [] := by simp
  rw [joinCells_cons, List.append_assoc, List.cons_append]
  by_cases blank : cell = []
  · subst blank
    have written : d.writeCell returns [] = [] := rfl
    rw [written, List.nil_append, read_delimiter (hs.imp_left .inl) proper visible more,
      Reader.save, empty]
  · obtain ⟨state, saves, read⟩ :=
      read_writeCell hs empty doubled visible proper readable blank (List.cons_ne_nil _ _)
    rw [read, read_delimiter (.inl saves) proper visible more]
    rfl

/-- The cells of a written row are read back, and then the next record starts. -/
theorem read_joinCells {cells : List (List Char)} (nonempty : cells ≠ [])
    (hs : r.state = .startField ∨ r.state = .startRecord ∧ cells ≠ [[]]) (empty : r.field = [])
    (doubled : d.doubleQuote = true) (visible : d.skipInitialSpace = false) (proper : d.Proper)
    (readable : ∀ cell ∈ cells, Readable d returns cell) :
    d.read r (d.joinCells returns cells ++ '\n' :: rest) =
      (r.fields ++ cells) :: d.read {} rest := by
  induction cells generalizing r with
  | nil => exact absurd rfl nonempty
  | cons cell cells ih =>
    have start : r.state = .startField ∨ r.state = .startRecord := hs.imp_right And.left
    have here := readable cell List.mem_cons_self
    cases cells with
    | nil =>
      rw [Dialect.joinCells]
      by_cases blank : cell = []
      · subst blank
        have written : d.writeCell returns [] = [] := rfl
        have field : r.state = .startField := hs.resolve_right fun h => h.2 rfl
        rw [written, List.nil_append, read_newline (.inl field) proper, empty]
      · obtain ⟨state, saves, read⟩ :=
          read_writeCell start empty doubled visible proper here blank (List.cons_ne_nil _ _)
        rw [read, read_newline saves proper]
    | cons next cells =>
      rw [read_joinCells_cons start empty doubled visible proper here,
        ih (List.cons_ne_nil _ _) (.inl rfl) rfl fun b hb => readable b (List.mem_cons_of_mem _ hb),
        List.append_assoc, List.singleton_append]

/-- A written row is read back, and then the next record starts. -/
theorem read_writeRow {row : List (List Char)} (doubled : d.doubleQuote = true)
    (visible : d.skipInitialSpace = false) (proper : d.Proper)
    (readable : ∀ cell ∈ row, Readable d returns cell) :
    d.read {} (d.writeRow returns row ++ rest) = row :: d.read {} rest := by
  rw [Dialect.writeRow]
  by_cases single : row = [[]]
  · subst single
    have closes : d.step { state := .inQuotedField } (some d.quote) =
        { state := .quoteInQuotedField } := by
      simp [Dialect.step, doubled]
    have opens : d.step {} (some d.quote) = { state := .inQuotedField } :=
      step_quote (.inr rfl) proper
    rw [if_pos rfl, List.append_assoc, List.cons_append, List.singleton_append,
      read_of_quoted (by rw [opens]), opens, List.singleton_append,
      read_of_open (lineEnds_eq_false proper.quote (List.cons_ne_nil _ _)), closes,
      read_newline (.inr (.inr rfl)) proper]
    rfl
  · rw [if_neg single, List.append_assoc, List.singleton_append]
    by_cases none : row = []
    · subst none
      have ends : Dialect.lineEnds '\n' rest = true := rfl
      rw [Dialect.joinCells, List.nil_append, Dialect.read, ends]
      rfl
    · exact read_joinCells none (.inr ⟨rfl, single⟩) rfl doubled visible proper readable

end RoundTrip

/-! ## The next record -/

/-- There is a next record, and it is of this kind. -/
def Head (records : List (List (List Char))) (P : List (List Char) → Prop) : Prop :=
  ∃ row rest, records = row :: rest ∧ P row

/-- The field of a record at a place is of this kind. -/
def FieldAt (k : Nat) (P : List Char → Prop) (row : List (List Char)) : Prop :=
  ∃ field, row[k]? = some field ∧ P field

/-- In these states the field is not empty or was quoted. -/
def Filling (state : State) : Prop :=
  state = .inField ∨ state = .inQuotedField ∨ state = .quoteInQuotedField

/-- The field at a place is settled, or it is being read and every way to go on settles it. -/
def Settled (k : Nat) (P : List Char → Prop) (r : Reader) : Prop :=
  FieldAt k P r.fields ∨
    r.fields.length = k ∧ Filling r.state ∧ ∀ field, r.field <+: field → P field

section Records

variable {d : Dialect} {r : Reader} {c : Char} {cs text : List Char} {k : Nat}
  {P : List Char → Prop}

theorem fieldAt_append {row more : List (List Char)} (h : FieldAt k P row) :
    FieldAt k P (row ++ more) := by
  obtain ⟨field, at_k, hP⟩ := h
  refine ⟨field, ?_, hP⟩
  rw [List.getElem?_append_left (List.getElem?_eq_some_iff.1 at_k).1, at_k]

theorem fieldAt_last {row : List (List Char)} {field : List Char} (h : P field) :
    FieldAt row.length P (row ++ [field]) :=
  ⟨field, by simp, h⟩

theorem step_state : (d.step r (some c)).state ≠ .startRecord := by
  unfold Dialect.step Dialect.startField Reader.save Reader.add
  cases hs : r.state <;> dsimp only <;> (try split_ifs) <;> simp [hs]

/-- A line ends a record, unless a quoted field is open. -/
theorem step_end_cases (r : Reader) :
    (d.step r none).state = .startRecord ∨ r.state = .inQuotedField ∧ d.step r none = r := by
  unfold Dialect.step Dialect.startField Reader.save
  cases hs : r.state <;> simp [hs]

/-- A step keeps the fields, or saves one more. -/
theorem step_fields (r : Reader) (e : Option Char) :
    (d.step r e).fields = r.fields ∨ (d.step r e).fields = r.fields ++ [r.field] := by
  unfold Dialect.step Dialect.startField Reader.save Reader.add
  cases hs : r.state <;> cases e <;> dsimp only <;> (try split_ifs) <;> simp

/-- What is done with a field that is being read: it goes on, or it is saved. -/
theorem step_filling (hs : Filling r.state) (c : Char) :
    (Filling (d.step r (some c)).state ∧ (d.step r (some c)).fields = r.fields ∧
      r.field <+: (d.step r (some c)).field) ∨
    (d.step r (some c)).fields = r.fields ++ [r.field] := by
  unfold Filling at hs ⊢
  unfold Dialect.step Reader.save Reader.add
  rcases hs with h | h | h <;> simp only [h] <;> split_ifs <;> simp

theorem step_filling_end (hs : Filling r.state) (ended : (d.step r none).state = .startRecord) :
    (d.step r none).fields = r.fields ++ [r.field] := by
  rcases hs with h | h | h
  · rw [step_end (.inr (.inl h))]
    rfl
  · rw [step_quoted_end h, h] at ended
    cases ended
  · rw [step_end (.inr (.inr h))]
    rfl

/-- A settled field stays settled. -/
theorem Settled.step (h : Settled k P r) (c : Char) : Settled k P (d.step r (some c)) := by
  rcases h with closed | ⟨rfl, filling, all⟩
  · left
    rcases step_fields r (some c) with e | e <;> rw [e]
    · exact closed
    · exact fieldAt_append closed
  · rcases step_filling filling c with ⟨goes, fields, longer⟩ | saved
    · exact .inr ⟨by rw [fields], goes, fun field e => all field (longer.trans e)⟩
    · left
      rw [saved]
      exact fieldAt_last (all _ (List.prefix_refl _))

/-- A record that ends with a settled field has the field. -/
theorem Settled.end (h : Settled k P r) (ended : (d.step r none).state = .startRecord) :
    FieldAt k P (d.step r none).fields := by
  rcases h with closed | ⟨rfl, filling, all⟩
  · rcases step_fields r none with e | e <;> rw [e]
    · exact closed
    · exact fieldAt_append closed
  · rw [step_filling_end filling ended]
    exact fieldAt_last (all _ (List.prefix_refl _))

/-- There is more to read, or something to save. -/
def Pending (r : Reader) (text : List Char) : Prop :=
  text ≠ [] ∨ r.field ≠ [] ∨ r.state = .inQuotedField

/-- A character that settles a field, when what follows keeps it. -/
theorem head_of_next (h : Settled k P (d.step r (some c)))
    (later : ∀ r, Settled k P r → Pending r cs → Head (d.read r cs) (FieldAt k P)) :
    Head (d.read r (c :: cs)) (FieldAt k P) := by
  by_cases ends : Dialect.lineEnds c cs = true
  · rw [Dialect.read, if_pos ends]
    rcases step_end_cases (d := d) (d.step r (some c)) with ended | ⟨quoted, stays⟩
    · rw [if_pos ended]
      exact ⟨_, _, rfl, h.end ended⟩
    · rw [stays, if_neg step_state]
      exact later _ h (.inr (.inr quoted))
  · rw [Bool.not_eq_true] at ends
    rw [read_of_open ends]
    refine later _ h (.inl ?_)
    rintro rfl
    simp [Dialect.lineEnds] at ends

/-- The next record has the settled field. -/
theorem head_of_settled (h : Settled k P r) (pending : Pending r text) :
    Head (d.read r text) (FieldAt k P) := by
  induction text generalizing r with
  | nil =>
    have left_over : r.field ≠ [] ∨ r.state = .inQuotedField := pending.resolve_left fun h => h rfl
    rw [Dialect.read, Dialect.finish, if_pos left_over]
    refine ⟨_, [], rfl, ?_⟩
    rcases h with closed | ⟨rfl, -, all⟩
    · exact fieldAt_append closed
    · exact fieldAt_last (all _ (List.prefix_refl _))
  | cons c cs ih => exact head_of_next (h.step c) fun _ => ih

/-- The next record has the field that a character settles. -/
theorem head_of_step (h : Settled k P (d.step r (some c))) :
    Head (d.read r (c :: cs)) (FieldAt k P) :=
  head_of_next h fun _ => head_of_settled

/-- The characters that an open field takes without a quote. -/
def goesOn (d : Dialect) (c : Char) : Bool := !isNewline c && c ≠ d.delimiter

/-- An unquoted field is what comes before the next delimiter or newline. -/
theorem head_of_inField (hs : r.state = .inField) (pending : Pending r text) :
    Head (d.read r text)
      (FieldAt r.fields.length fun field => field = r.field ++ text.takeWhile (goesOn d)) := by
  induction text generalizing r with
  | nil =>
    have left_over : r.field ≠ [] ∨ r.state = .inQuotedField := pending.resolve_left fun h => h rfl
    rw [Dialect.read, Dialect.finish, if_pos left_over]
    exact ⟨_, [], rfl, fieldAt_last (by simp)⟩
  | cons c cs ih =>
    by_cases goes : goesOn d c = true
    · have plain : isNewline c = false ∧ c ≠ d.delimiter := by simpa [goesOn] using goes
      have added : d.step r (some c) = r.add c .inField := by
        simp [Dialect.step, hs, plain]
      have field : r.field ++ (c :: cs).takeWhile (goesOn d) =
          (r.add c .inField).field ++ cs.takeWhile (goesOn d) := by
        rw [List.takeWhile_cons_of_pos goes, Reader.add, List.append_assoc, List.singleton_append]
      rw [field]
      cases cs with
      | nil =>
        have ends : Dialect.lineEnds c [] = true := by simp [Dialect.lineEnds]
        rw [Dialect.read, if_pos ends, added, step_end (.inr (.inl rfl))]
        exact ⟨_, _, rfl, fieldAt_last (by simp [Reader.add])⟩
      | cons b cs =>
        rw [read_of_open (lineEnds_eq_false plain.1 (List.cons_ne_nil _ _)), added]
        exact ih rfl (.inl (List.cons_ne_nil _ _))
    · refine head_of_step (.inl ?_)
      have saved : (d.step r (some c)).fields = r.fields ++ [r.field] := by
        have stops : isNewline c = true ∨ c = d.delimiter := by
          by_contra other
          push Not at other
          exact goes (by simpa [goesOn] using other)
        by_cases newline : isNewline c = true
        · simp [Dialect.step, hs, newline, Reader.save]
        · obtain rfl := stops.resolve_left newline
          simp [Dialect.step, hs, newline, Reader.save]
      rw [saved]
      exact fieldAt_last (by simp [List.takeWhile_cons_of_neg goes])

/-- A line that ends a record without another field. -/
theorem head_of_eatNewline (hs : r.state = .eatNewline) (more : text ≠ []) :
    Head (d.read r text) (· = r.fields) := by
  induction text with
  | nil => exact absurd rfl more
  | cons c cs ih =>
    have eaten : d.step r (some c) = r := by simp [Dialect.step, hs]
    have ended : d.step r none = { r with state := .startRecord } := by simp [Dialect.step, hs]
    by_cases ends : Dialect.lineEnds c cs = true
    · rw [Dialect.read, if_pos ends, eaten, ended, if_pos rfl]
      exact ⟨_, _, rfl, rfl⟩
    · rw [Bool.not_eq_true] at ends
      rw [read_of_open ends, eaten]
      refine ih ?_
      rintro rfl
      simp [Dialect.lineEnds] at ends

end Records

/-! ## Which rows are read back -/

section Written

variable {d : Dialect} {r : Reader} {rest : List Char} {returns : Bool}

/-- An unquoted cell with a carriage return is cut there. -/
theorem head_of_unreadable {cell : List Char}
    (hs : r.state = .startField ∨ r.state = .startRecord ∧ r.fields = []) (empty : r.field = [])
    (visible : d.skipInitialSpace = false) (unreadable : ¬ Readable d returns cell)
    (more : rest ≠ []) : Head (d.read r (d.writeCell returns cell ++ rest)) fun row =>
      row[r.fields.length]? ≠ some cell := by
  obtain ⟨plain, cut⟩ : d.quotes returns cell = false ∧ '\r' ∈ cell := by
    unfold Readable at unreadable
    push Not at unreadable
    simpa using unreadable
  obtain ⟨delimiter, quote, -⟩ := not_quotes plain
  have other {row : List (List Char)}
      (h : FieldAt r.fields.length (fun field => '\r' ∉ field) row) :
      row[r.fields.length]? ≠ some cell := by
    obtain ⟨field, at_k, clear⟩ := h
    rw [at_k]
    rintro ⟨⟩
    exact clear cut
  have start : r.state = .startField ∨ r.state = .startRecord := hs.imp_right And.left
  rw [Dialect.writeCell, if_neg (by simp [plain])]
  cases cell with
  | nil => cases cut
  | cons c cell =>
    rw [List.cons_append]
    by_cases hc : isNewline c = true
    · rcases hs with field | ⟨record, fields⟩
      · have saved : (d.step r (some c)).fields = r.fields ++ [[]] := by
          simp [Dialect.step, field, Dialect.startField, hc, Reader.save, empty]
        have head : Head (d.read r (c :: (cell ++ rest)))
            (FieldAt r.fields.length fun field => '\r' ∉ field) := by
          refine head_of_step (.inl ?_)
          rw [saved]
          exact fieldAt_last nofun
        obtain ⟨row, tail, read, at_k⟩ := head
        exact ⟨row, tail, read, other at_k⟩
      · have same : d.step r (some c) = d.step { r with state := .eatNewline } (some c) := by
          simp [Dialect.step, record, hc]
        have moved : d.read r (c :: (cell ++ rest)) =
            d.read { r with state := .eatNewline } (c :: (cell ++ rest)) := by
          rw [Dialect.read, same, Dialect.read]
        obtain ⟨row, tail, read, eq⟩ := head_of_eatNewline (d := d)
          (r := { r with state := .eatNewline }) rfl (List.cons_ne_nil c (cell ++ rest))
        refine ⟨row, tail, moved.trans read, ?_⟩
        rw [eq]
        simp [fields]
    · rw [Bool.not_eq_true] at hc
      have first := step_first start visible hc (fun e => quote (e ▸ List.mem_cons_self))
        fun e => delimiter (e ▸ List.mem_cons_self)
      rw [read_of_open (lineEnds_eq_false hc (by simp [more])), first]
      obtain ⟨row, tail, read, field, at_k, eq⟩ := head_of_inField (d := d) (r := r.add c .inField)
        rfl (.inl (List.append_ne_nil_of_right_ne_nil cell more))
      refine ⟨row, tail, read, other ⟨field, at_k, ?_⟩⟩
      rw [eq, Reader.add, empty, List.nil_append, List.singleton_append]
      rintro (_ | ⟨_, taken⟩)
      · exact absurd hc (by decide)
      · have := List.mem_takeWhile_imp taken
        simp [goesOn, isNewline] at this

/-- A row with a cell that is not readable is not read back. -/
theorem head_of_joinCells {cells : List (List Char)}
    (hs : r.state = .startField ∨ r.state = .startRecord ∧ r.fields = []) (empty : r.field = [])
    (doubled : d.doubleQuote = true) (visible : d.skipInitialSpace = false) (proper : d.Proper)
    (unreadable : ∃ cell ∈ cells, ¬ Readable d returns cell) :
    Head (d.read r (d.joinCells returns cells ++ '\n' :: rest)) (· ≠ r.fields ++ cells) := by
  induction cells generalizing r with
  | nil =>
    obtain ⟨_, ⟨⟩, -⟩ := unreadable
  | cons cell cells ih =>
    have place {row : List (List Char)} (h : row[r.fields.length]? ≠ some cell) :
        row ≠ r.fields ++ cell :: cells := by
      rintro rfl
      exact h (by simp)
    by_cases here : Readable d returns cell
    · have later : ∃ b ∈ cells, ¬ Readable d returns b := by
        obtain ⟨b, mem, hb⟩ := unreadable
        rcases List.mem_cons.1 mem with rfl | mem
        · exact absurd here hb
        · exact ⟨b, mem, hb⟩
      cases cells with
      | nil =>
        obtain ⟨_, ⟨⟩, -⟩ := later
      | cons next cells =>
        rw [read_joinCells_cons (hs.imp_right And.left) empty doubled visible proper here]
        obtain ⟨row, tail, read, ne⟩ :=
          ih (r := ⟨.startField, r.fields ++ [cell], []⟩) (.inl rfl) rfl later
        refine ⟨row, tail, read, ?_⟩
        rwa [List.append_assoc, List.singleton_append] at ne
    · obtain ⟨row, tail, read, ne⟩ : Head (d.read r (d.joinCells returns (cell :: cells) ++
          '\n' :: rest)) fun row => row[r.fields.length]? ≠ some cell := by
        cases cells with
        | nil => exact head_of_unreadable hs empty visible here (List.cons_ne_nil _ _)
        | cons next cells =>
          rw [joinCells_cons, List.append_assoc]
          exact head_of_unreadable hs empty visible here (by simp)
      exact ⟨row, tail, read, place ne⟩

/-- The written rows are read back exactly when all cells are readable. -/
theorem rows_write_iff {rows : List (List (List Char))} (doubled : d.doubleQuote = true)
    (visible : d.skipInitialSpace = false) (proper : d.Proper) :
    d.rows (d.write returns rows) = rows ↔ ∀ row ∈ rows, ∀ cell ∈ row, Readable d returns cell := by
  rw [Dialect.rows]
  induction rows with
  | nil => exact ⟨fun _ => nofun, fun _ => rfl⟩
  | cons row rows ih =>
    have split : d.write returns (row :: rows) = d.writeRow returns row ++ d.write returns rows :=
      List.flatMap_cons
    rw [split, List.forall_mem_cons, ← ih]
    by_cases readable : ∀ cell ∈ row, Readable d returns cell
    · rw [read_writeRow doubled visible proper readable, List.cons.injEq]
      exact ⟨fun h => ⟨readable, h.2⟩, fun h => ⟨rfl, h.2⟩⟩
    · refine ⟨fun same => absurd same ?_, fun h => absurd h.1 readable⟩
      push Not at readable
      have ordinary : row ≠ [[]] := by
        rintro rfl
        obtain ⟨cell, mem, bad⟩ := readable
        rw [List.mem_singleton.1 mem] at bad
        exact bad (.inr nofun)
      rw [Dialect.writeRow, if_neg ordinary, List.append_assoc, List.singleton_append]
      obtain ⟨other, tail, read, ne⟩ := head_of_joinCells (d := d) (r := {}) (.inr ⟨rfl, rfl⟩) rfl
        doubled visible proper readable
      rw [read]
      rintro ⟨⟩
      exact ne rfl

end Written

end Delimited
