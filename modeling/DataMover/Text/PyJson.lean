import DataMover.Dict
import DataMover.Text.JsonText

/-!
# JSON texts of Python strings

`json.dumps` with `ensure_ascii=True`, `sort_keys=True` and `separators=(",", ":")`, and `json.loads`.
`json.loads` refuses a text that is no JSON, an integer of too many digits, and values that are nested
deeper than the stack allows; each is another exception.

A Python string is a list of code points, surrogates included.  Two surrogates that make a pair are
escaped like the character of the pair, so reading a text back joins them; every other string is read
back as it was.
-/

namespace PyJson

open JsonText (unitEscape escapeChar hexChar shortEscapes)

/-! ## Strings -/

/-- A code point; unlike a `Char` it may be a surrogate. -/
abbrev CodePoint := Fin 1114112

/-- `str`. -/
abbrev PyString := List CodePoint

def ofChar (c : Char) : CodePoint := Fin.ofNat _ c.toNat

/-- A string without surrogates. -/
def ofString (s : String) : PyString := s.toList.map ofChar

def High (n : Nat) : Prop := 55296 ≤ n ∧ n < 56320

def Low (n : Nat) : Prop := 56320 ≤ n ∧ n < 57344

instance (n : Nat) : Decidable (High n) := inferInstanceAs (Decidable (_ ∧ _))

instance (n : Nat) : Decidable (Low n) := inferInstanceAs (Decidable (_ ∧ _))

/-- No surrogate pair of the string is split into its two surrogates. -/
def Joined (s : PyString) : Prop := List.IsChain (fun c d : CodePoint => ¬ (High c ∧ Low d)) s

/-! ## Writing -/

/-- The escape of a code point. -/
def escape (c : CodePoint) : List Char :=
  if High c ∨ Low c then unitEscape c else escapeChar (Char.ofNat c)

/-- A string between quotes. -/
def dumpsString (s : PyString) : List Char := '"' :: (s.flatMap escape ++ ['"'])

/-- A key with the text of its value. -/
abbrev Member := PyString × List Char

/-- The members of an object, after its brace. -/
def dumpsMembers : List Member → List Char
  | [] => ['}']
  | [(key, text)] => dumpsString key ++ ':' :: (text ++ ['}'])
  | (key, text) :: next :: rest =>
    dumpsString key ++ ':' :: (text ++ ',' :: dumpsMembers (next :: rest))

/-- The members in the order of their keys. -/
def sortKeys {β : Type} (members : List (PyString × β)) : List (PyString × β) :=
  members.insertionSort fun a b => a.1 ≤ b.1

/-- The text of an object. -/
def dumpsObject (members : List Member) : List Char := '{' :: dumpsMembers (sortKeys members)

/-- The text of a dictionary of strings. -/
def dumpsDict (d : Dict PyString PyString) : List Char :=
  dumpsObject (d.map fun e => (e.1, dumpsString e.2))

/-! ## Reading -/

/-- What `json.loads` returns; a number is kept as its text. -/
inductive Json where
  | null
  | bool (b : Bool)
  | number (text : List Char)
  | string (s : PyString)
  | array (items : List Json)
  | object (members : List (PyString × Json))

/-- What `json.loads` raises: `JSONDecodeError`, the `ValueError` for an integer of too many digits, or
`RecursionError`. -/
inductive LoadsError where
  | decode
  | value (message : String)
  | recursion
  deriving DecidableEq

/-- A text that does not go on as it has to. -/
def expect {α : Type} : Option α → Except LoadsError α
  | some a => .ok a
  | none => .error .decode

/-- The digits that an integer may have (`sys.get_int_max_str_digits()`, 0 for any), and the nested values
that the stack has room for. -/
structure Limits where
  digits : Nat
  depth : Nat

/-- The limits inside an object or an array. -/
def Limits.inner (limits : Limits) : Except LoadsError Limits :=
  match limits.depth with
  | 0 => .error .recursion
  | depth + 1 => .ok { limits with depth }

/-- A hexadecimal digit, in either case. -/
def hexDigit (c : Char) : Option Nat :=
  if '0' ≤ c ∧ c ≤ '9' then some (c.toNat - 48)
  else if 'a' ≤ c ∧ c ≤ 'f' then some (c.toNat - 87)
  else if 'A' ≤ c ∧ c ≤ 'F' then some (c.toNat - 55)
  else none

/-- The code unit after `\u`. -/
def scanUnit : List Char → Option (Nat × List Char)
  | a :: b :: c :: d :: rest => do
    let a ← hexDigit a
    let b ← hexDigit b
    let c ← hexDigit c
    let d ← hexDigit d
    return (4096 * a + 256 * b + 16 * c + d, rest)
  | _ => none

/-- The code point after `\u`: a high surrogate is joined with a low one that is escaped after it. -/
def scanEscape (text : List Char) : Option (CodePoint × List Char) := do
  let (unit, rest) ← scanUnit text
  if High unit then
    match rest with
    | '\\' :: 'u' :: next =>
      let (low, after) ← scanUnit next
      if Low low then return (Fin.ofNat _ (65536 + (unit - 55296) * 1024 + (low - 56320)), after)
      else return (Fin.ofNat _ unit, rest)
    | _ => return (Fin.ofNat _ unit, rest)
  else return (Fin.ofNat _ unit, rest)

/-- The escapes with a letter that are read. -/
def letterEscapes : List (Char × Char) := ('/', '/') :: shortEscapes

/-- One code point of a string; a control character is refused. -/
def scanChar : List Char → Option (CodePoint × List Char)
  | '\\' :: 'u' :: rest => scanEscape rest
  | '\\' :: letter :: rest =>
    (letterEscapes.find? fun e => e.2 = letter).map fun e => (ofChar e.1, rest)
  | c :: rest => if c.toNat < 32 ∨ c = '\\' then none else some (ofChar c, rest)
  | [] => none

/-- A string after its quote; the fuel is the number of characters. -/
def scanString : Nat → List Char → Option (PyString × List Char)
  | 0, _ => none
  | _ + 1, '"' :: rest => some ([], rest)
  | fuel + 1, text => do
    let (c, rest) ← scanChar text
    let (s, rest) ← scanString fuel rest
    return (c :: s, rest)

/-- `[ \t\n\r]*`. -/
def skipSpace (text : List Char) : List Char :=
  text.dropWhile fun c => c ∈ [' ', '\t', '\n', '\r']

/-- The digits at the start. -/
def digitsOf (text : List Char) : List Char × List Char := text.span Char.isDigit

/-- `-?(?:0|[1-9][0-9]*)`. -/
def scanInteger (text : List Char) : Option (List Char × List Char) :=
  let (sign, text) := match text with
    | '-' :: rest => (['-'], rest)
    | _ => ([], text)
  match text with
  | '0' :: rest => some (sign ++ ['0'], rest)
  | _ => match digitsOf text with
    | ([], _) => none
    | (digits, rest) => some (sign ++ digits, rest)

/-- A part that is there only if a digit follows it. -/
def scanOptional (mark : List Char × List Char) : List Char × List Char :=
  match digitsOf mark.2 with
  | ([], _) => ([], mark.1 ++ mark.2)
  | (digits, rest) => (mark.1 ++ digits, rest)

/-- The `ValueError` for an integer of too many digits. -/
def tooManyDigits (limit digits : Nat) : LoadsError :=
  .value (s!"Exceeds the limit ({limit} digits) for integer string conversion: value has {digits} " ++
    "digits; use sys.set_int_max_str_digits() to increase the limit")

/-- `(\.[0-9]+)?([eE][-+]?[0-9]+)?` after an integer. -/
def scanNumber (limits : Limits) (text : List Char) : Except LoadsError (Json × List Char) := do
  let (whole, text) ← expect (scanInteger text)
  let (fraction, text) := match text with
    | '.' :: rest => scanOptional (['.'], rest)
    | _ => ([], text)
  let (exponent, text) := match text with
    | c :: s :: rest =>
      if c ∈ ['e', 'E'] then
        if s ∈ ['-', '+'] then scanOptional ([c, s], rest) else scanOptional ([c], s :: rest)
      else ([], text)
    | _ => ([], text)
  let digits := (whole.filter Char.isDigit).length
  if fraction = [] ∧ exponent = [] ∧ limits.digits ≠ 0 ∧ limits.digits < digits then
    .error (tooManyDigits limits.digits digits)
  else return (.number (whole ++ fraction ++ exponent), text)

/-- The values that are words. -/
def words : List (String × Json) := [
  ("null", .null), ("true", .bool true), ("false", .bool false), ("NaN", .number "NaN".toList),
  ("Infinity", .number "Infinity".toList), ("-Infinity", .number "-Infinity".toList)]

/-- A word or a number. -/
def scanScalar (limits : Limits) (text : List Char) : Except LoadsError (Json × List Char) :=
  match words.findSome? fun e => (e.1.toList.isPrefixOf? text).map fun rest => (e.2, rest) with
  | some found => .ok found
  | none => scanNumber limits text

mutual

/-- `scan_once`. -/
def scanValue : Limits → Nat → List Char → Except LoadsError (Json × List Char)
  | _, 0, _ => .error .decode
  | _, _ + 1, '"' :: rest => do
    let (s, rest) ← expect (scanString (rest.length + 1) rest)
    return (.string s, rest)
  | limits, fuel + 1, '{' :: rest => do
    let inner ← limits.inner
    match skipSpace rest with
    | '}' :: rest => return (.object [], rest)
    | rest =>
      let (members, rest) ← scanMembers inner fuel rest
      return (.object (Dict.ofItems members), rest)
  | limits, fuel + 1, '[' :: rest => do
    let inner ← limits.inner
    match skipSpace rest with
    | ']' :: rest => return (.array [], rest)
    | rest =>
      let (items, rest) ← scanItems inner fuel rest
      return (.array items, rest)
  | limits, _ + 1, text => scanScalar limits text

/-- The members of an object, from the quote of the first key. -/
def scanMembers : Limits → Nat → List Char → Except LoadsError (List (PyString × Json) × List Char)
  | _, 0, _ => .error .decode
  | limits, fuel + 1, '"' :: rest => do
    let (key, rest) ← expect (scanString (rest.length + 1) rest)
    match skipSpace rest with
    | ':' :: rest =>
      let (value, rest) ← scanValue limits fuel (skipSpace rest)
      match skipSpace rest with
      | '}' :: rest => return ([(key, value)], rest)
      | ',' :: rest =>
        let (members, rest) ← scanMembers limits fuel (skipSpace rest)
        return ((key, value) :: members, rest)
      | _ => .error .decode
    | _ => .error .decode
  | _, _ + 1, _ => .error .decode

/-- The items of an array. -/
def scanItems : Limits → Nat → List Char → Except LoadsError (List Json × List Char)
  | _, 0, _ => .error .decode
  | limits, fuel + 1, text => do
    let (value, rest) ← scanValue limits fuel text
    match skipSpace rest with
    | ']' :: rest => return ([value], rest)
    | ',' :: rest =>
      let (items, rest) ← scanItems limits fuel (skipSpace rest)
      return (value :: items, rest)
    | _ => .error .decode

end

/-- `json.loads(text)`. -/
def loads (limits : Limits) (text : String) : Except LoadsError Json :=
  if text.toList.head? = some '\ufeff' then .error .decode
  else match scanValue limits (text.toList.length + 1) (skipSpace text.toList) with
    | .ok (value, rest) => if skipSpace rest = [] then .ok value else .error .decode
    | .error e => .error e

/-! ## Strings come back -/

@[simp] theorem ofChar_val (c : Char) : (ofChar c : Nat) = c.toNat := by
  have valid := JsonText.toNat_valid c
  exact Nat.mod_eq_of_lt (by omega)

/-- A character is no surrogate. -/
theorem joined_ofString (s : String) : Joined (ofString s) := by
  have plain : ∀ c ∈ ofString s, ¬ High c := by
    intro c hc
    obtain ⟨d, -, rfl⟩ := List.mem_map.1 hc
    have valid := JsonText.toNat_valid d
    rw [ofChar_val, High]
    omega
  rw [Joined, List.isChain_iff_getElem]
  intro i h
  rintro ⟨high, -⟩
  exact plain _ (List.getElem_mem _) high

theorem hexDigit_hexChar (n : Nat) : hexDigit (hexChar n) = some (n % 16) := by
  have all : ∀ k < 16, hexDigit ("0123456789abcdef".toList.getD k '0') = some k := by decide
  exact all _ (Nat.mod_lt n (by decide))

theorem scanUnit_hex {n : Nat} (h : n < 65536) (rest : List Char) :
    scanUnit (hexChar (n / 4096) :: hexChar (n / 256) :: hexChar (n / 16) :: hexChar n :: rest) =
      some (n, rest) := by
  simp only [scanUnit, hexDigit_hexChar, Option.bind_eq_bind, Option.bind_some]
  have joined : 4096 * (n / 4096 % 16) + 256 * (n / 256 % 16) + 16 * (n / 16 % 16) + n % 16 = n := by
    omega
  rw [joined]
  rfl

/-- A character that is not a surrogate, as a code point. -/
theorem ofChar_ofNat {c : CodePoint} (plain : ¬ (High c ∨ Low c)) : ofChar (Char.ofNat c) = c := by
  have range := c.isLt
  have valid : Nat.isValidChar c := by
    simp only [High, Low] at plain
    unfold Nat.isValidChar
    omega
  apply Fin.ext
  rw [ofChar_val]
  unfold Char.ofNat
  rw [dif_pos valid]
  rfl

/-- What follows a high surrogate is no escape of a low one. -/
def Ends (rest : List Char) : Prop :=
  ∀ next, rest = '\\' :: 'u' :: next → ∃ unit after, scanUnit next = some (unit, after) ∧ ¬ Low unit

/-- The escape of one code unit is read as this unit. -/
theorem scanChar_unitEscape {n : Nat} (h : n < 65536) {rest : List Char} (ends : High n → Ends rest) :
    scanChar (unitEscape n ++ rest) = some (Fin.ofNat _ n, rest) := by
  have unit := scanUnit_hex h rest
  have start : scanChar (unitEscape n ++ rest) = scanEscape (hexChar (n / 4096) :: hexChar (n / 256) ::
      hexChar (n / 16) :: hexChar n :: rest) := by
    simp only [unitEscape, List.cons_append, List.nil_append, scanChar]
  rw [start, scanEscape, unit]
  by_cases high : High n
  · simp only [Option.bind_eq_bind, Option.bind_some, if_pos high]
    split
    · rename_i next
      obtain ⟨low, after, scanned, other⟩ := ends high next rfl
      rw [scanned]
      simp only [Option.bind_some, if_neg other]
      rfl
    · rfl
  · simp only [Option.bind_eq_bind, Option.bind_some, if_neg high]
    rfl

/-- A high surrogate and a low one that is escaped after it. -/
theorem scanEscape_pair {text next after : List Char} {high low : Nat}
    (first : scanUnit text = some (high, '\\' :: 'u' :: next)) (isHigh : High high)
    (second : scanUnit next = some (low, after)) (isLow : Low low) :
    scanEscape text = some (Fin.ofNat _ (65536 + (high - 55296) * 1024 + (low - 56320)), after) := by
  rw [scanEscape, first, Option.bind_eq_bind, Option.bind_some]
  dsimp only
  rw [if_pos isHigh]
  split
  · rename_i follows
    cases follows
    rw [second, Option.bind_some]
    dsimp only
    rw [if_pos isLow]
    rfl
  · rename_i other
    exact absurd rfl (other next)

/-- The two escapes of a character beyond the basic plane are read as one. -/
theorem scanChar_pair {n : Nat} (large : 65536 ≤ n) (range : n < 1114112) (rest : List Char) :
    scanChar (unitEscape (55296 + (n - 65536) / 1024) ++
      (unitEscape (56320 + (n - 65536) % 1024) ++ rest)) = some (Fin.ofNat _ n, rest) := by
  generalize hi : 55296 + (n - 65536) / 1024 = high
  generalize lo : 56320 + (n - 65536) % 1024 = low
  have isHigh : High high := by
    unfold High
    omega
  have isLow : Low low := by
    unfold Low
    omega
  have joined : 65536 + (high - 55296) * 1024 + (low - 56320) = n := by omega
  have second := scanUnit_hex (n := low) (by omega) rest
  have first := scanUnit_hex (n := high) (by omega) ('\\' :: 'u' :: hexChar (low / 4096) ::
    hexChar (low / 256) :: hexChar (low / 16) :: hexChar low :: rest)
  have read := scanEscape_pair first isHigh second isLow
  rw [joined] at read
  simpa only [unitEscape, List.cons_append, List.nil_append, scanChar] using read

/-- How the escape of a character looks. -/
theorem escapeChar_cases (c : Char) :
    (∃ letter, (c, letter) ∈ shortEscapes ∧ escapeChar c = ['\\', letter]) ∨
      (c ≠ '"' ∧ c ≠ '\\' ∧ 32 ≤ c.toNat ∧ escapeChar c = [c]) ∨
      (c.toNat < 65536 ∧ escapeChar c = unitEscape c.toNat) ∨
      (65536 ≤ c.toNat ∧ escapeChar c = unitEscape (55296 + (c.toNat - 65536) / 1024) ++
        unitEscape (56320 + (c.toNat - 65536) % 1024)) := by
  unfold escapeChar
  split
  · rename_i letter found
    obtain ⟨before, after, split, -⟩ := List.lookup_eq_some_iff.1 found
    exact .inl ⟨letter, split ▸ List.mem_append_right _ List.mem_cons_self, rfl⟩
  · rename_i other
    split_ifs with printable basic
    · refine .inr (.inl ⟨?_, ?_, printable.1, rfl⟩) <;> rintro rfl <;> cases other
    · exact .inr (.inr (.inl ⟨basic, rfl⟩))
    · exact .inr (.inr (.inr ⟨by omega, rfl⟩))

theorem scanChar_letter {c letter : Char} (h : (c, letter) ∈ shortEscapes) (rest : List Char) :
    scanChar ('\\' :: letter :: rest) = some (ofChar c, rest) := by
  simp only [shortEscapes, List.mem_cons, List.not_mem_nil, or_false] at h
  rcases h with e | e | e | e | e | e | e <;> cases e <;> rfl

theorem scanChar_plain {c : Char} (other : c ≠ '\\') (printable : 32 ≤ c.toNat) (rest : List Char) :
    scanChar (c :: rest) = some (ofChar c, rest) := by
  unfold scanChar
  split
  · rename_i e
    exact absurd (List.cons.inj e).1 other
  · rename_i e
    exact absurd (List.cons.inj e).1 other
  · rename_i e
    cases e
    rw [if_neg]
    rintro (control | backslash)
    · omega
    · exact other backslash
  · rename_i e
    cases e

/-- An escape is read as its code point, if a high surrogate is not followed by a low one. -/
theorem scanChar_escape (c : CodePoint) {rest : List Char} (ends : High c → Ends rest) :
    scanChar (escape c ++ rest) = some (c, rest) := by
  have range := c.isLt
  unfold escape
  split_ifs with surrogate
  · have basic : (c : Nat) < 65536 := by
      simp only [High, Low] at surrogate
      omega
    rw [scanChar_unitEscape basic ends, Fin.ofNat_val_eq_self]
  · have back := ofChar_ofNat surrogate
    have code : (Char.ofNat c).toNat = c := by
      rw [← ofChar_val, back]
    rcases escapeChar_cases (Char.ofNat c) with ⟨letter, mem, shape⟩ | ⟨-, other, printable, shape⟩ |
      ⟨basic, shape⟩ | ⟨large, shape⟩
    · rw [shape, List.cons_append, List.singleton_append, scanChar_letter mem, back]
    · rw [shape, List.singleton_append, scanChar_plain other printable, back]
    · rw [code] at basic shape
      rw [shape, scanChar_unitEscape basic ends, Fin.ofNat_val_eq_self]
    · rw [code] at large shape
      rw [shape, List.append_assoc, scanChar_pair large range, Fin.ofNat_val_eq_self]

/-- The text of a string without its first quote. -/
def tailText (s : PyString) (rest : List Char) : List Char := s.flatMap escape ++ '"' :: rest

theorem tailText_cons (c : CodePoint) (s : PyString) (rest : List Char) :
    tailText (c :: s) rest = escape c ++ tailText s rest := by
  rw [tailText, List.flatMap_cons, List.append_assoc, tailText]

theorem ends_unitEscape {n : Nat} (h : n < 65536) (other : ¬ Low n) (rest : List Char) :
    Ends (unitEscape n ++ rest) := by
  intro next same
  simp only [unitEscape, List.cons_append, List.nil_append, List.cons.injEq, true_and] at same
  exact ⟨n, rest, same ▸ scanUnit_hex h rest, other⟩

/-- The escape of a code point that is no low surrogate. -/
theorem ends_escape {d : CodePoint} (other : ¬ Low d) (rest : List Char) :
    Ends (escape d ++ rest) := by
  have range := d.isLt
  unfold escape
  split_ifs with surrogate
  · refine ends_unitEscape ?_ other rest
    simp only [High, Low] at surrogate
    omega
  · have code : (Char.ofNat d).toNat = d := by
      rw [← ofChar_val, ofChar_ofNat surrogate]
    rcases escapeChar_cases (Char.ofNat d) with ⟨letter, mem, shape⟩ | ⟨-, plain, -, shape⟩ |
      ⟨basic, shape⟩ | ⟨large, shape⟩
    · rw [shape]
      intro next same
      have letters : ∀ e ∈ shortEscapes, e.2 ≠ 'u' := by decide
      exact absurd (List.cons.inj (List.cons.inj same).2).1 (letters _ mem)
    · rw [shape]
      intro next same
      exact absurd (List.cons.inj same).1 plain
    · rw [shape, code]
      exact ends_unitEscape (code ▸ basic) other rest
    · rw [shape, code, List.append_assoc]
      rw [code] at large
      refine ends_unitEscape (by omega) ?_ _
      unfold Low
      omega

/-- What follows a high surrogate in the text of a string without split pairs. -/
theorem ends_tailText {c : CodePoint} {s : PyString} (joined : Joined (c :: s)) (high : High c)
    (rest : List Char) : Ends (tailText s rest) := by
  cases s with
  | nil =>
    intro next same
    exact absurd (List.cons.inj same).1 (by decide)
  | cons d s =>
    rw [tailText_cons]
    refine ends_escape (fun low => ?_) _
    exact (List.isChain_cons_cons.1 joined).1 ⟨high, low⟩

/-- An escape does not start with a quote. -/
theorem escape_ne_quote (c : CodePoint) (rest tail : List Char) : escape c ++ rest ≠ '"' :: tail := by
  unfold escape
  split_ifs
  · intro same
    exact absurd (List.cons.inj same).1 (by decide)
  · exact JsonText.escapeChar_ne_quote _ rest tail

/-- A string without split pairs is read back. -/
theorem scanString_tailText {s : PyString} (joined : Joined s) {fuel : Nat} (enough : s.length < fuel)
    (rest : List Char) : scanString fuel (tailText s rest) = some (s, rest) := by
  induction s generalizing fuel with
  | nil =>
    obtain ⟨fuel, rfl⟩ : ∃ n, fuel = n + 1 := ⟨fuel - 1, by omega⟩
    rfl
  | cons c s ih =>
    rw [List.length_cons] at enough
    obtain ⟨fuel, rfl⟩ : ∃ n, fuel = n + 1 := ⟨fuel - 1, by omega⟩
    have read : scanChar (tailText (c :: s) rest) = some (c, tailText s rest) := by
      rw [tailText_cons]
      exact scanChar_escape c fun high => ends_tailText joined high rest
    have open_ : ∀ tail, tailText (c :: s) rest ≠ '"' :: tail := by
      intro tail
      rw [tailText_cons]
      exact escape_ne_quote c _ tail
    rw [scanString]
    · rw [read, Option.bind_eq_bind, Option.bind_some]
      dsimp only
      rw [ih joined.tail (by omega)]
      rfl
    · exact open_

theorem length_le_tailText (s : PyString) (rest : List Char) : s.length < (tailText s rest).length := by
  induction s with
  | nil => simp [tailText]
  | cons c s ih =>
    have some_char : escape c ≠ [] := by
      intro empty
      have read := @scanChar_escape c [] (by
        intro _ next same
        cases same)
      rw [empty] at read
      cases read
    have positive := List.length_pos_iff.2 some_char
    rw [tailText_cons, List.length_cons, List.length_append]
    omega

theorem dumpsString_append (s : PyString) (rest : List Char) :
    dumpsString s ++ rest = '"' :: tailText s rest := by
  simp [dumpsString, tailText]

theorem scanString_dumps {s : PyString} (joined : Joined s) (rest : List Char) :
    scanString ((tailText s rest).length + 1) (tailText s rest) = some (s, rest) :=
  scanString_tailText joined ((length_le_tailText s rest).trans (Nat.lt_succ_self _)) rest

/-! ## Objects come back -/

/-- What may follow a value in a text without spaces. -/
def Closes (rest : List Char) : Prop := ∀ c ∈ rest.head?, c ∈ [',', '}', ']']

/-- A text is read as a value, whatever closes it, with any room and any fuel from a bound on. -/
def Reads (limits : Limits) (fuel : Nat) (text : List Char) (value : Json) : Prop :=
  (∀ c ∈ text.head?, c ∉ [' ', '\t', '\n', '\r']) ∧ text ≠ [] ∧
    ∀ depth, limits.depth ≤ depth → ∀ n, fuel ≤ n → ∀ rest, Closes rest →
      scanValue { limits with depth } n (text ++ rest) = .ok (value, rest)

variable {limits : Limits}

theorem Reads.mono {d n m : Nat} {text : List Char} {value : Json}
    (h : Reads limits n text value) (deep : limits.depth ≤ d) (le : n ≤ m) :
    Reads { limits with depth := d } m text value :=
  ⟨h.1, h.2.1, fun depth room k enough => h.2.2 depth (deep.trans room) k (le.trans enough)⟩

theorem ok_bind {ε α β : Type} (a : α) (f : α → Except ε β) : (Except.ok a >>= f) = f a := rfl

theorem skipSpace_cons {c : Char} (other : c ∉ [' ', '\t', '\n', '\r']) (rest : List Char) :
    skipSpace (c :: rest) = c :: rest := by
  rw [skipSpace, List.dropWhile_cons, if_neg]
  simpa using other

theorem Reads.skipSpace {fuel : Nat} {text : List Char} {value : Json} (h : Reads limits fuel text value)
    (rest : List Char) : PyJson.skipSpace (text ++ rest) = text ++ rest := by
  cases text with
  | nil => exact absurd rfl h.2.1
  | cons c text => exact skipSpace_cons (h.1 c rfl) _

theorem reads_dumpsString {s : PyString} (joined : Joined s) :
    Reads limits 1 (dumpsString s) (.string s) := by
  refine ⟨?_, ?_, ?_⟩
  · rintro c ⟨⟩
    decide
  · intro empty
    cases empty
  · intro depth _ n enough rest _
    obtain ⟨n, rfl⟩ : ∃ m, n = m + 1 := ⟨n - 1, by omega⟩
    rw [dumpsString_append, scanValue, scanString_dumps joined]
    rfl

theorem digitsOf_append {ds rest : List Char} (all : ∀ c ∈ ds, c.isDigit = true)
    (stop : ∀ c ∈ rest.head?, c.isDigit = false) : digitsOf (ds ++ rest) = (ds, rest) := by
  rw [digitsOf, List.span_eq_takeWhile_dropWhile, List.takeWhile_append_of_pos all,
    List.dropWhile_append_of_pos all]
  cases rest with
  | nil => simp
  | cons c rest => simp [stop c rfl]

/-- Only zero starts with a zero. -/
theorem eq_zero_of_toDigits {n : Nat} {ds : List Char} (h : Nat.toDigits 10 n = '0' :: ds) :
    n = 0 := by
  induction n using Nat.strong_induction_on generalizing ds with
  | h n ih =>
    rcases lt_or_ge n 10 with small | large
    · rw [Nat.toDigits_of_lt_base small] at h
      have all : ∀ k < 10, Nat.digitChar k = '0' → k = 0 := by decide
      exact all n small (List.cons.inj h).1
    · rw [Nat.toDigits_of_base_le (by decide) large] at h
      obtain ⟨d, front, shape⟩ := List.exists_cons_of_ne_nil (Nat.toDigits_ne_nil (b := 10) (n := n / 10))
      rw [shape, List.cons_append] at h
      obtain rfl := (List.cons.inj h).1
      have := ih (n / 10) (by omega) shape
      omega

theorem scanInteger_toDigits (n : Nat) {rest : List Char} (stop : ∀ c ∈ rest.head?, c.isDigit = false) :
    scanInteger (Nat.toDigits 10 n ++ rest) = some (Nat.toDigits 10 n, rest) := by
  have all : ∀ c ∈ Nat.toDigits 10 n, c.isDigit = true := fun _ hc =>
    Nat.isDigit_of_mem_toDigits (by decide) (by decide) hc
  have run := digitsOf_append all stop
  obtain ⟨d, ds, shape⟩ := List.exists_cons_of_ne_nil (Nat.toDigits_ne_nil (b := 10) (n := n))
  have digit : d.isDigit = true := all d (shape ▸ List.mem_cons_self)
  by_cases zero : d = '0'
  · subst zero
    obtain rfl := eq_zero_of_toDigits shape
    rfl
  · have minus : d ≠ '-' := by
      rintro rfl
      cases digit
    rw [shape, List.cons_append] at run ⊢
    unfold scanInteger
    split
    · rename_i same
      split at same
      · rename_i first
        exact absurd (List.cons.inj first).1 minus
      · cases same
        split
        · rename_i first
          exact absurd (List.cons.inj first).1 zero
        · rw [run]
          rfl

/-- The words start with letters. -/
theorem words_digit {d : Char} (digit : d.isDigit = true) (text : List Char) :
    (words.findSome? fun e => (e.1.toList.isPrefixOf? (d :: text)).map fun rest => (e.2, rest)) =
      none := by
  rw [List.findSome?_eq_none_iff]
  intro e he
  have letter : ∃ c cs, e.1.toList = c :: cs ∧ c.isDigit = false := by
    simp only [words, List.mem_cons, List.not_mem_nil, or_false] at he
    rcases he with rfl | rfl | rfl | rfl | rfl | rfl <;> exact ⟨_, _, rfl, by decide⟩
  obtain ⟨c, cs, shape, other⟩ := letter
  have ne : (c == d) = false := by
    rw [beq_eq_false_iff_ne]
    rintro rfl
    rw [digit] at other
    cases other
  rw [shape, List.isPrefixOf?, ne]
  rfl

/-- A number is read to its end, when the digits are not limited. -/
theorem reads_toDigits (any : limits.digits = 0) (n : Nat) :
    Reads limits 1 (Nat.toDigits 10 n) (.number (Nat.toDigits 10 n)) := by
  have all : ∀ c ∈ Nat.toDigits 10 n, c.isDigit = true := fun _ hc =>
    Nat.isDigit_of_mem_toDigits (by decide) (by decide) hc
  refine ⟨?_, Nat.toDigits_ne_nil, ?_⟩
  · intro c hc space
    have digit := all c (List.mem_of_head? hc)
    simp only [List.mem_cons, List.not_mem_nil, or_false] at space
    rcases space with rfl | rfl | rfl | rfl <;> cases digit
  · intro depth _ m enough rest closes
    obtain ⟨m, rfl⟩ : ∃ k, m = k + 1 := ⟨m - 1, by omega⟩
    have stop : ∀ c ∈ rest.head?, c.isDigit = false := by
      intro c hc
      have close := closes c hc
      simp only [List.mem_cons, List.not_mem_nil, or_false] at close
      rcases close with rfl | rfl | rfl <;> decide
    have whole := scanInteger_toDigits n stop
    obtain ⟨d, ds, shape⟩ := List.exists_cons_of_ne_nil (Nat.toDigits_ne_nil (b := 10) (n := n))
    have digit : d.isDigit = true := all d (shape ▸ List.mem_cons_self)
    have scalar : scanValue { limits with depth } (m + 1) (Nat.toDigits 10 n ++ rest) =
        scanScalar { limits with depth } (Nat.toDigits 10 n ++ rest) := by
      rw [shape, List.cons_append, scanValue]
      all_goals
        intro _ same
        obtain rfl := (List.cons.inj same).1
        cases digit
    have number : scanNumber { limits with depth } (Nat.toDigits 10 n ++ rest) =
        .ok (.number (Nat.toDigits 10 n), rest) := by
      rw [scanNumber, whole, expect, ok_bind]
      cases rest with
      | nil => simp [any, pure, Except.pure]
      | cons c rest =>
        have close := closes c rfl
        simp only [List.mem_cons, List.not_mem_nil, or_false] at close
        rcases close with rfl | rfl | rfl <;> cases rest <;> simp [any, pure, Except.pure]
    rw [scalar, scanScalar, number]
    rw [shape, List.cons_append, words_digit digit]

/-- The members of a text are read as the members of an object. -/
def ReadsMember (limits : Limits) (fuel : Nat) (member : Member) (value : PyString × Json) : Prop :=
  member.1 = value.1 ∧ Joined member.1 ∧ Reads limits fuel member.2 value.2

/-- The text of some members starts with the quote of a key. -/
theorem dumpsMembers_cons (key : PyString) (text : List Char) (rest : List Member) :
    ∃ tail, dumpsMembers ((key, text) :: rest) = dumpsString key ++ ':' :: (text ++ tail) ∧
      (rest = [] ∧ tail = ['}'] ∨ rest ≠ [] ∧ tail = ',' :: dumpsMembers rest) := by
  cases rest with
  | nil => exact ⟨_, rfl, .inl ⟨rfl, rfl⟩⟩
  | cons next rest => exact ⟨_, rfl, .inr ⟨List.cons_ne_nil _ _, rfl⟩⟩

theorem skipSpace_dumpsMembers {members : List Member} (rest : List Char) (filled : members ≠ []) :
    skipSpace (dumpsMembers members ++ rest) = dumpsMembers members ++ rest := by
  obtain ⟨⟨key, text⟩, others, rfl⟩ := List.exists_cons_of_ne_nil filled
  obtain ⟨tail, shape, -⟩ := dumpsMembers_cons key text others
  rw [shape, List.append_assoc, dumpsString_append]
  exact skipSpace_cons (by decide) _

theorem scanMembers_dumps {fuel : Nat} {members : List Member} {values : List (PyString × Json)}
    (reads : List.Forall₂ (ReadsMember limits fuel) members values) (filled : members ≠ [])
    {depth n : Nat} (deep : limits.depth ≤ depth) (enough : fuel + members.length ≤ n)
    (rest : List Char) :
    scanMembers { limits with depth } n (dumpsMembers members ++ rest) = .ok (values, rest) := by
  induction reads generalizing n with
  | nil => exact absurd rfl filled
  | @cons member value members values first others ih =>
    obtain ⟨key, text⟩ := member
    obtain ⟨key', value⟩ := value
    obtain ⟨same, joined, read⟩ := first
    dsimp only at same joined read
    subst same
    rw [List.length_cons] at enough
    obtain ⟨n, rfl⟩ : ∃ m, n = m + 1 := ⟨n - 1, by omega⟩
    obtain ⟨tail, shape, ends⟩ := dumpsMembers_cons key text members
    rw [shape, List.append_assoc, dumpsString_append, scanMembers, List.cons_append, List.append_assoc,
      scanString_dumps joined, expect, ok_bind]
    dsimp only
    rw [skipSpace_cons (by decide)]
    change scanValue _ n (skipSpace (text ++ (tail ++ rest))) >>= _ = _
    have closes : Closes (tail ++ rest) := by
      rcases ends with ⟨-, rfl⟩ | ⟨-, rfl⟩ <;> rintro c ⟨⟩ <;> decide
    rw [read.skipSpace, read.2.2 depth deep n (by omega) _ closes, ok_bind]
    dsimp only
    rcases ends with ⟨rfl, rfl⟩ | ⟨more, rfl⟩
    · cases others
      rw [List.cons_append, skipSpace_cons (by decide)]
      rfl
    · rw [List.cons_append, skipSpace_cons (by decide)]
      change scanMembers _ n (skipSpace (dumpsMembers members ++ rest)) >>= _ = _
      rw [skipSpace_dumpsMembers rest more, ih more (by omega), ok_bind]
      rfl

/-- An object with distinct keys is read back, one level deeper than its members. -/
theorem reads_members {fuel : Nat} {members : List Member} {values : List (PyString × Json)}
    (reads : List.Forall₂ (ReadsMember limits fuel) members values)
    (distinct : (values.map Prod.fst).Nodup) :
    Reads { limits with depth := limits.depth + 1 } (fuel + members.length + 1)
      ('{' :: dumpsMembers members) (.object values) := by
  refine ⟨?_, List.cons_ne_nil _ _, ?_⟩
  · rintro c ⟨⟩
    decide
  intro depth deep n enough rest _
  dsimp only at deep ⊢
  obtain ⟨n, rfl⟩ : ∃ m, n = m + 1 := ⟨n - 1, by omega⟩
  obtain ⟨depth, rfl⟩ : ∃ d, depth = d + 1 := ⟨depth - 1, by omega⟩
  rw [List.cons_append, scanValue, Limits.inner, ok_bind]
  cases reads with
  | nil =>
    rw [dumpsMembers, List.cons_append, skipSpace_cons (by decide)]
    rfl
  | @cons member value members values first others =>
    rw [skipSpace_dumpsMembers rest (List.cons_ne_nil _ _)]
    split
    · rename_i tail same
      obtain ⟨text, shape, -⟩ := dumpsMembers_cons member.1 member.2 members
      rw [show (member :: members) = (member.1, member.2) :: members from rfl, shape,
        List.append_assoc, dumpsString_append] at same
      exact absurd (List.cons.inj same).1 (by decide)
    · rw [scanMembers_dumps (.cons first others) (List.cons_ne_nil _ _) (by omega) (by omega), ok_bind]
      dsimp only
      rw [Dict.ofItems_eq distinct]
      rfl

/-! ## Dictionaries of strings -/

section Sorting

variable {β γ : Type}

theorem sortKeys_perm (members : List (PyString × β)) : (sortKeys members).Perm members :=
  List.perm_insertionSort _ members

theorem sortKeys_map (f : β → γ) (members : List (PyString × β)) :
    sortKeys (members.map fun e => (e.1, f e.2)) = (sortKeys members).map fun e => (e.1, f e.2) :=
  (List.map_insertionSort (fun a b : PyString × β => a.1 ≤ b.1)
    (fun a b : PyString × γ => a.1 ≤ b.1) (fun e => (e.1, f e.2)) members
    fun _ _ _ _ => Iff.rfl).symm

theorem sortKeys_pairwise (members : List (PyString × β)) :
    (sortKeys members).Pairwise fun a b => a.1 ≤ b.1 := by
  have : IsTrans (PyString × β) fun a b => a.1 ≤ b.1 := ⟨fun _ _ _ h h' => le_trans h h'⟩
  have : Std.Total (α := PyString × β) fun a b => a.1 ≤ b.1 := ⟨fun a b => le_total a.1 b.1⟩
  exact List.pairwise_insertionSort _ members

/-- The order of the items does not count. -/
theorem sortKeys_eq {d d' : List (PyString × β)} (distinct : (d.map Prod.fst).Nodup)
    (perm : d.Perm d') : sortKeys d = sortKeys d' := by
  refine List.Perm.eq_of_pairwise ?_ (sortKeys_pairwise d)
    (sortKeys_pairwise d') ((sortKeys_perm d).trans (perm.trans (sortKeys_perm d').symm))
  intro a b ha hb ab ba
  have left : a ∈ d := (sortKeys_perm d).subset ha
  have right : b ∈ d := perm.symm.subset ((sortKeys_perm d').subset hb)
  exact List.inj_on_of_nodup_map distinct left right (le_antisymm ab ba)

end Sorting

/-- A dictionary of strings without split pairs. -/
def JoinedDict (d : Dict PyString PyString) : Prop := ∀ e ∈ d, Joined e.1 ∧ Joined e.2

/-- What is read back from the text of a dictionary. -/
def stringMembers (d : Dict PyString PyString) : List (PyString × Json) :=
  d.map fun e => (e.1, .string e.2)

theorem dumpsDict_eq (d : Dict PyString PyString) :
    dumpsDict d = '{' :: dumpsMembers ((sortKeys d).map fun e => (e.1, dumpsString e.2)) := by
  rw [dumpsDict, dumpsObject, sortKeys_map]

/-- The text of a dictionary is read as its items in the order of their keys. -/
theorem reads_dumpsDict {d : Dict PyString PyString} (distinct : (d.map Prod.fst).Nodup)
    (joined : JoinedDict d) :
    Reads { limits with depth := limits.depth + 1 } (d.length + 2) (dumpsDict d)
      (.object (stringMembers (sortKeys d))) := by
  have perm := sortKeys_perm d
  have members : List.Forall₂ (ReadsMember limits 1) ((sortKeys d).map fun e => (e.1, dumpsString e.2))
      (stringMembers (sortKeys d)) := by
    rw [stringMembers, List.forall₂_map_left_iff, List.forall₂_map_right_iff, List.forall₂_same]
    intro e he
    obtain ⟨key, value⟩ := joined e (perm.subset he)
    exact ⟨rfl, key, reads_dumpsString value⟩
  have keys : ((stringMembers (sortKeys d)).map Prod.fst).Nodup := by
    rw [stringMembers, List.map_map]
    exact (perm.map Prod.fst).nodup_iff.2 distinct
  rw [dumpsDict_eq]
  have reads := reads_members members keys
  rw [List.length_map, perm.length_eq] at reads
  rwa [show d.length + 2 = 1 + d.length + 1 by omega]

theorem length_le_dumpsMembers (members : List Member) :
    members.length < (dumpsMembers members).length := by
  induction members with
  | nil => simp [dumpsMembers]
  | cons member rest ih =>
    obtain ⟨tail, shape, ends⟩ := dumpsMembers_cons member.1 member.2 rest
    rw [show (member :: rest) = (member.1, member.2) :: rest from rfl, shape]
    rcases ends with ⟨rfl, rfl⟩ | ⟨-, rfl⟩ <;>
      simp only [List.length_append, List.length_cons, List.length_nil] <;> omega

theorem length_le_dumpsDict (d : Dict PyString PyString) : d.length < (dumpsDict d).length := by
  have long := length_le_dumpsMembers ((sortKeys d).map fun e => (e.1, dumpsString e.2))
  rw [List.length_map, (sortKeys_perm d).length_eq] at long
  rw [dumpsDict_eq, List.length_cons]
  omega

/-- A text that is read as a value. -/
theorem loads_of_reads {fuel : Nat} {text : List Char} {value : Json}
    (h : Reads limits fuel text value) {depth : Nat} (deep : limits.depth ≤ depth)
    (mark : text.head? ≠ some '\ufeff') (enough : fuel ≤ text.length + 1) :
    loads { limits with depth } (String.ofList text) = .ok value := by
  rw [loads, String.toList_ofList, if_neg mark]
  have spaces := h.skipSpace []
  have read := h.2.2 depth deep _ enough [] (by rintro _ ⟨⟩)
  rw [List.append_nil] at spaces read
  rw [spaces, read]
  rfl

end PyJson
