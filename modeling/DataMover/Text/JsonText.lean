import Mathlib

/-!
# JSON text of strings

`json.dumps` of a list of strings with `ensure_ascii=True` and `separators=(",", ":")`, which escapes
every character outside of the printable ASCII range.  A reader that takes back one character at a time
shows that the text determines the strings.
-/

namespace JsonText

/-! ## Escapes -/

/-- A lower-case hexadecimal digit. -/
def hexChar (n : Nat) : Char := "0123456789abcdef".toList.getD (n % 16) '0'

/-- `\uXXXX`. -/
def unitEscape (n : Nat) : List Char :=
  ['\\', 'u', hexChar (n / 4096), hexChar (n / 256), hexChar (n / 16), hexChar n]

/-- The escapes with a letter. -/
def shortEscapes : List (Char × Char) :=
  [('"', '"'), ('\\', '\\'), ('\n', 'n'), ('\r', 'r'), ('\t', 't'), ('\x0c', 'f'), ('\x08', 'b')]

/-- The escape of a character; one beyond the basic plane is a surrogate pair. -/
def escapeChar (c : Char) : List Char :=
  match shortEscapes.lookup c with
  | some letter => ['\\', letter]
  | none =>
    if 32 ≤ c.toNat ∧ c.toNat ≤ 126 then [c]
    else if c.toNat < 65536 then unitEscape c.toNat
    else unitEscape (55296 + (c.toNat - 65536) / 1024) ++ unitEscape (56320 + (c.toNat - 65536) % 1024)

/-- A string between quotes. -/
def dumpsString (s : String) : List Char := '"' :: (s.toList.flatMap escapeChar ++ ['"'])

/-- The items of a list. -/
def dumpsItems : List String → List Char
  | [] => [']']
  | [s] => dumpsString s ++ [']']
  | s :: t :: rest => dumpsString s ++ ',' :: dumpsItems (t :: rest)

/-- `json.dumps(strings, ensure_ascii=True, separators=(",", ":"))`. -/
def dumps (strings : List String) : String := String.ofList ('[' :: dumpsItems strings)

/-! ## Reading one character back -/

/-- The value of a hexadecimal digit. -/
def hexValue (c : Char) : Nat := "0123456789abcdef".toList.idxOf c

/-- The code unit after `\u`. -/
def readUnit : List Char → Option (Nat × List Char)
  | '\\' :: 'u' :: a :: b :: c :: d :: rest =>
    some (4096 * hexValue a + 256 * hexValue b + 16 * hexValue c + hexValue d, rest)
  | _ => none

/-- The character that an escape stands for. -/
def readChar (text : List Char) : Option (Char × List Char) :=
  match readUnit text with
  | some (high, rest) =>
    if 55296 ≤ high ∧ high < 56320 then
      (readUnit rest).map fun e => (Char.ofNat (65536 + (high - 55296) * 1024 + (e.1 - 56320)), e.2)
    else some (Char.ofNat high, rest)
  | none =>
    match text with
    | '\\' :: letter :: rest =>
      (shortEscapes.find? fun e => e.2 = letter).map fun e => (e.1, rest)
    | c :: rest => some (c, rest)
    | [] => none

theorem hexValue_hexChar (n : Nat) : hexValue (hexChar n) = n % 16 := by
  have all : ∀ k < 16, hexValue ("0123456789abcdef".toList.getD k '0') = k := by decide
  exact all _ (Nat.mod_lt n (by decide))

theorem readUnit_unitEscape {n : Nat} (h : n < 65536) (rest : List Char) :
    readUnit (unitEscape n ++ rest) = some (n, rest) := by
  simp only [unitEscape, List.cons_append, List.nil_append, readUnit, hexValue_hexChar]
  congr 2
  omega

/-- A character is not a surrogate. -/
theorem toNat_valid (c : Char) : c.toNat < 55296 ∨ 57343 < c.toNat ∧ c.toNat < 1114112 := c.valid

theorem readChar_shortEscape {c letter : Char} (h : shortEscapes.lookup c = some letter)
    (rest : List Char) : readChar ('\\' :: letter :: rest) = some (c, rest) := by
  obtain ⟨before, after, split, -⟩ := List.lookup_eq_some_iff.1 h
  have mem : (c, letter) ∈ shortEscapes := split ▸ List.mem_append_right _ List.mem_cons_self
  simp only [shortEscapes, List.mem_cons, List.not_mem_nil, or_false] at mem
  rcases mem with e | e | e | e | e | e | e <;> cases e <;> rfl

/-- An escape is read as its character, whatever follows it. -/
theorem readChar_escapeChar (c : Char) (rest : List Char) :
    readChar (escapeChar c ++ rest) = some (c, rest) := by
  unfold escapeChar
  split
  · rename_i letter h
    exact readChar_shortEscape h rest
  · rename_i plain
    split_ifs with printable basic
    · have backslash : c ≠ '\\' := by
        rintro rfl
        cases plain
      have noUnit : readUnit (c :: rest) = none := by
        unfold readUnit
        split
        · rename_i e
          exact absurd (List.cons.inj e).1 backslash
        · rfl
      rw [List.singleton_append]
      unfold readChar
      rw [noUnit]
      dsimp only
      split
      · rename_i e
        exact absurd (List.cons.inj e).1 backslash
      · rename_i e
        cases e
        rfl
      · rename_i e
        cases e
    · have valid := toNat_valid c
      unfold readChar
      rw [readUnit_unitEscape basic]
      dsimp only
      rw [if_neg (by omega), Char.ofNat_toNat]
    · have valid := toNat_valid c
      unfold readChar
      rw [List.append_assoc, readUnit_unitEscape (by omega)]
      dsimp only
      rw [if_pos (by omega), readUnit_unitEscape (by omega)]
      have joined : 65536 + (55296 + (c.toNat - 65536) / 1024 - 55296) * 1024 +
          (56320 + (c.toNat - 65536) % 1024 - 56320) = c.toNat := by omega
      rw [Option.map_some, joined, Char.ofNat_toNat]

/-! ## The text determines the strings -/

/-- An escape does not start like the end of a string. -/
theorem escapeChar_ne_quote (c : Char) (rest tail : List Char) :
    escapeChar c ++ rest ≠ '"' :: tail := by
  intro same
  have read := readChar_escapeChar c rest
  rw [same] at read
  have quote : readChar ('"' :: tail) = some ('"', tail) := rfl
  rw [quote] at read
  cases read
  exact absurd same (by simp [escapeChar, shortEscapes])

theorem escapes_inj {s t rest tail : List Char}
    (h : s.flatMap escapeChar ++ '"' :: rest = t.flatMap escapeChar ++ '"' :: tail) :
    s = t ∧ rest = tail := by
  induction s generalizing t with
  | nil =>
    cases t with
    | nil => exact ⟨rfl, (List.cons.inj h).2⟩
    | cons c t =>
      rw [List.flatMap_cons, List.append_assoc] at h
      exact absurd h.symm (escapeChar_ne_quote c _ _)
  | cons c s ih =>
    cases t with
    | nil =>
      rw [List.flatMap_cons, List.append_assoc] at h
      exact absurd h (escapeChar_ne_quote c _ _)
    | cons d t =>
      rw [List.flatMap_cons, List.flatMap_cons, List.append_assoc, List.append_assoc] at h
      have read := readChar_escapeChar c (s.flatMap escapeChar ++ '"' :: rest)
      rw [h, readChar_escapeChar] at read
      obtain ⟨rfl, same⟩ := Prod.mk.inj (Option.some.inj read)
      obtain ⟨rfl, ends⟩ := ih same.symm
      exact ⟨rfl, ends⟩

theorem dumpsString_inj {s t : String} {rest tail : List Char}
    (h : dumpsString s ++ rest = dumpsString t ++ tail) : s = t ∧ rest = tail := by
  simp only [dumpsString, List.cons_append, List.append_assoc, List.nil_append] at h
  obtain ⟨chars, same⟩ := escapes_inj (List.cons.inj h).2
  exact ⟨String.toList_injective chars, same⟩

theorem dumpsItems_injective : Function.Injective dumpsItems := by
  intro a b h
  induction a generalizing b with
  | nil =>
    cases b with
    | nil => rfl
    | cons t b => cases b <;> simp [dumpsItems, dumpsString] at h
  | cons s a ih =>
    cases b with
    | nil => cases a <;> simp [dumpsItems, dumpsString] at h
    | cons t b =>
      cases a with
      | nil =>
        cases b with
        | nil => rw [(dumpsString_inj h).1]
        | cons t' b =>
          have ends := (dumpsString_inj h).2
          simp at ends
      | cons s' a =>
        cases b with
        | nil =>
          have ends := (dumpsString_inj h).2
          simp at ends
        | cons t' b =>
          obtain ⟨rfl, rest⟩ := dumpsString_inj h
          rw [ih (List.cons.inj rest).2]

/-- The JSON text determines the strings. -/
theorem dumps_injective : Function.Injective dumps := fun _ _ h =>
  dumpsItems_injective (List.cons.inj (String.ofList_injective h)).2

end JsonText
