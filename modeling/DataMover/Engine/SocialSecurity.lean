import DataMover.Text.Decimals
import DataMover.Text.Patterns

/-!
# Social security numbers

`contains_supported_ssn`: a numeric cell is looked at as the nine digits of its value, any other cell
as its text, where a regular expression looks for nine digits with separators.  The pattern matches
exactly the written forms whose parts are valid, so both ways agree on the forms of one number.
-/

namespace DataMover

/-- `text.zfill(width)`. -/
def zfill (width : Nat) : List Char → List Char
  | [] => List.leftpad width '0' []
  | c :: cs =>
    if c = '+' ∨ c = '-' then c :: cs.leftpad (width - 1) '0' else (c :: cs).leftpad width '0'

namespace Ssn

open Pattern

/-! ## The detector -/

/-- `\d`. -/
def digitPattern (digit : DigitKind) : Pattern Char := one fun c => (digit c).isSome

/-- `[- ]?`. -/
def separatorPattern : Pattern Char := optional (one fun c => c = '-' || c = ' ')

/-- `_SSN_PATTERN`. -/
def ssnPattern (digit : DigitKind) : Pattern Char :=
  let d := digitPattern digit
  cat (notBehind fun c => (digit c).isSome) <|
  cat (notAhead (either (literal ['0', '0', '0']) (either (literal ['6', '6', '6'])
    (cat (literal ['9']) (times 2 d))))) <|
  cat (times 3 d) <| cat separatorPattern <|
  cat (notAhead (literal ['0', '0'])) <| cat (times 2 d) <| cat separatorPattern <|
  cat (notAhead (literal ['0', '0', '0', '0'])) <| cat (times 4 d) (notAhead d)

/-- `isinstance(value, (int, float, Decimal))`, of a value that is no boolean. -/
def isNumber : Cell → Bool
  | .int _ | .float _ | .decimal _ => true
  | _ => false

/-- Whether the nine digits of a finite number are a social security number. -/
def numberDetected (digit : DigitKind) (number : ℚ) : Bool :=
  if 0 ≤ number ∧ number ≤ 999999999 ∧ number.isInt then
    (ssnPattern digit).search (zfill 9 (toString number.num).toList)
  else false

/-- `contains_supported_ssn`. -/
def containsSupportedSsn (u : UnicodeDigits) (value : Cell) : Bool :=
  match value with
  | .null | .bool _ => false
  | value =>
    let text := strip value.printed
    if isNumber value || (numericSpelling u.digit text.toList).isSome then
      match (decimalOfText u text).bind PyDecimal.value with
      | none => false
      | some number => numberDetected u.digit number
    else (ssnPattern u.digit).search text.toList

/-! ## Written forms -/

/-- Nine digits in three parts, with what separates them. -/
structure Written where
  area : List Char
  separator : List Char
  group : List Char
  separator' : List Char
  serial : List Char

namespace Written

/-- The text of a form. -/
def chars (w : Written) : List Char :=
  w.area ++ (w.separator ++ (w.group ++ (w.separator' ++ w.serial)))

/-- An optional `-` or space. -/
def IsSeparator (s : List Char) : Prop := s = [] ∨ s = ['-'] ∨ s = [' ']

/-- So many digits. -/
def AreDigits (digit : DigitKind) (n : Nat) (cs : List Char) : Prop :=
  cs.length = n ∧ ∀ c ∈ cs, (digit c).isSome = true

/-- The form has three, two and four digits. -/
structure Good (digit : DigitKind) (w : Written) : Prop where
  area : AreDigits digit 3 w.area
  separator : IsSeparator w.separator
  group : AreDigits digit 2 w.group
  separator' : IsSeparator w.separator'
  serial : AreDigits digit 4 w.serial

/-- No part is one that is never assigned. -/
structure Valid (w : Written) : Prop where
  area_zero : w.area ≠ ['0', '0', '0']
  area_666 : w.area ≠ ['6', '6', '6']
  area_900 : w.area.head? ≠ some '9'
  group : w.group ≠ ['0', '0']
  serial : w.serial ≠ ['0', '0', '0', '0']

instance : DecidablePred Valid := fun w =>
  decidable_of_iff (w.area ≠ ['0', '0', '0'] ∧ w.area ≠ ['6', '6', '6'] ∧ w.area.head? ≠ some '9' ∧
      w.group ≠ ['0', '0'] ∧ w.serial ≠ ['0', '0', '0', '0'])
    ⟨fun h => ⟨h.1, h.2.1, h.2.2.1, h.2.2.2.1, h.2.2.2.2⟩,
      fun h => ⟨h.area_zero, h.area_666, h.area_900, h.group, h.serial⟩⟩

end Written

/-- No digit ends the text before, and none starts the text after. -/
structure Clear (digit : DigitKind) (front rest : List Char) : Prop where
  front : ∀ c, front.getLast? = some c → (digit c).isSome = false
  rest : ∀ c, rest.head? = some c → (digit c).isSome = false

section Matches

variable {digit : DigitKind} {front word rest : List Char}

theorem matches_separator :
    separatorPattern.Matches front word rest ↔ Written.IsSeparator word := by
  simp only [separatorPattern, Matches, Written.IsSeparator]
  constructor
  · rintro (⟨c, hc, rfl⟩ | rfl)
    · rcases Bool.or_eq_true_iff.1 hc with h | h
      · exact .inr (.inl (by rw [of_decide_eq_true h]))
      · exact .inr (.inr (by rw [of_decide_eq_true h]))
    · exact .inl rfl
  · rintro (rfl | rfl | rfl)
    · exact .inr rfl
    · exact .inl ⟨'-', by decide, rfl⟩
    · exact .inl ⟨' ', by decide, rfl⟩

theorem matches_digits {n : Nat} :
    (times n (digitPattern digit)).Matches front word rest ↔ Written.AreDigits digit n word :=
  matches_times_one

theorem matches_noDigit : (notAhead (digitPattern digit)).Matches front word rest ↔
    word = [] ∧ ∀ c, rest.head? = some c → (digit c).isSome = false :=
  matches_notAhead_one

/-- The look-ahead at the first three digits. -/
theorem matches_area {area after : List Char} (digits : Written.AreDigits digit 3 area)
    (split : after = area ++ rest) :
    (notAhead (either (literal ['0', '0', '0']) (either (literal ['6', '6', '6'])
        (cat (literal ['9']) (times 2 (digitPattern digit)))))).Matches front word after ↔
      word = [] ∧ area ≠ ['0', '0', '0'] ∧ area ≠ ['6', '6', '6'] ∧ area.head? ≠ some '9' := by
  subst split
  have nine : (notAhead (cat (literal ['9']) (times 2 (digitPattern digit)))).Matches front word
      (area ++ rest) ↔ word = [] ∧ area.head? ≠ some '9' := by
    rw [Matches]
    refine and_congr Iff.rfl ⟨fun h first => ?_, ?_⟩
    · obtain ⟨cs, rfl⟩ := List.head?_eq_some_iff.1 first
      refine h ('9' :: cs) rest rfl ⟨['9'], cs, rfl, matches_literal.2 rfl, matches_digits.2 ?_⟩
      exact ⟨Nat.succ_injective digits.1, fun c hc => digits.2 c (List.mem_cons_of_mem _ hc)⟩
    · rintro h u v split ⟨_, w, rfl, head, -⟩
      obtain rfl := matches_literal.1 head
      cases area with
      | nil => exact absurd digits.1 (by decide)
      | cons c cs =>
        have first := congrArg List.head? split
        simp only [List.cons_append, List.nil_append, List.head?_cons] at first
        exact h first
  rw [matches_notAhead_either, matches_notAhead_either, matches_notAhead_literal digits.1 rfl,
    matches_notAhead_literal digits.1 rfl, nine]
  tauto

/-- The pattern matches the valid forms that no digit touches. -/
theorem ssnPattern_matches : (ssnPattern digit).Matches front word rest ↔
    ∃ w : Written, w.Good digit ∧ w.Valid ∧ word = w.chars ∧ Clear digit front rest := by
  simp only [ssnPattern, matches_cat, matches_separator, matches_digits, matches_noDigit]
  constructor
  · rintro ⟨_, _, rfl, ⟨rfl, before⟩, _, _, rfl, ahead, area, _, rfl, areaDigits, separator, _, rfl,
      separated, _, _, rfl, groupAhead, group, _, rfl, groupDigits, separator', _, rfl, separated',
      _, _, rfl, serialAhead, serial, _, rfl, serialDigits, rfl, after⟩
    obtain ⟨rfl, zero, beast, nine⟩ := (matches_area areaDigits (List.append_assoc ..)).1 ahead
    obtain ⟨rfl, group_ne⟩ :=
      (matches_notAhead_literal groupDigits.1 (List.append_assoc ..)).1 groupAhead
    obtain ⟨rfl, serial_ne⟩ :=
      (matches_notAhead_literal serialDigits.1 (List.append_assoc ..)).1 serialAhead
    refine ⟨⟨area, separator, group, separator', serial⟩,
      ⟨areaDigits, separated, groupDigits, separated', serialDigits⟩,
      ⟨zero, beast, nine, group_ne, serial_ne⟩, ?_, ⟨before, after⟩⟩
    simp [Written.chars]
  · rintro ⟨⟨area, separator, group, separator', serial⟩, good, valid, rfl, clear⟩
    refine ⟨[], _, rfl, ⟨rfl, clear.front⟩, [], _, rfl, ?_, area, _, rfl, good.area, separator, _, rfl,
      good.separator, [], _, rfl, ?_, group, _, rfl, good.group, separator', _, rfl, good.separator',
      [], _, rfl, ?_, serial, [], (List.append_nil _).symm, good.serial, rfl, clear.rest⟩
    · exact (matches_area good.area (List.append_assoc ..)).2
        ⟨rfl, valid.area_zero, valid.area_666, valid.area_900⟩
    · exact (matches_notAhead_literal good.group.1 (List.append_assoc ..)).2 ⟨rfl, valid.group⟩
    · exact (matches_notAhead_literal good.serial.1 rfl).2 ⟨rfl, valid.serial⟩

end Matches

/-! ## Searching a form -/

section Search

variable {u : UnicodeDigits} {w w' : Written}

theorem digit_of_separator {s : List Char} (h : Written.IsSeparator s) :
    ∀ c ∈ s, (u.digit c).isSome = false := by
  have minus : (u.digit '-').isSome = false := by rw [u.ascii _ (by decide)]; rfl
  have space : (u.digit ' ').isSome = false := by rw [u.ascii _ (by decide)]; rfl
  rcases h with rfl | rfl | rfl
  · exact nofun
  · exact List.forall_mem_singleton.2 minus
  · exact List.forall_mem_singleton.2 space

/-- What stands before the first digit of a text is its separator. -/
theorem takeWhile_separator {s part : List Char} (rest : List Char) {n : Nat} (h : Written.IsSeparator s)
    (digits : Written.AreDigits u.digit (n + 1) part) :
    (s ++ (part ++ rest)).takeWhile (fun c => !(u.digit c).isSome) = s := by
  rw [List.takeWhile_append_of_pos fun c hc => by rw [digit_of_separator h c hc]; rfl]
  cases part with
  | nil => exact absurd digits.1 (by simp)
  | cons c cs =>
    rw [List.cons_append, List.takeWhile_cons_of_neg, List.append_nil]
    simp [digits.2 c List.mem_cons_self]

theorem separator_inj {s s' part part' rest rest' : List Char} {n : Nat}
    (h : Written.IsSeparator s) (h' : Written.IsSeparator s')
    (digits : Written.AreDigits u.digit (n + 1) part)
    (digits' : Written.AreDigits u.digit (n + 1) part')
    (same : s ++ (part ++ rest) = s' ++ (part' ++ rest')) :
    s = s' ∧ part = part' ∧ rest = rest' := by
  have front := takeWhile_separator rest h digits
  rw [same, takeWhile_separator _ h' digits'] at front
  subst front
  have parts := List.append_cancel_left same
  exact ⟨rfl, List.append_inj parts (digits.1.trans digits'.1.symm)⟩

/-- A text is a form in one way. -/
theorem Written.Good.inj (good : w.Good u.digit) (good' : w'.Good u.digit)
    (same : w.chars = w'.chars) : w = w' := by
  obtain ⟨area, same⟩ := List.append_inj same (good.area.1.trans good'.area.1.symm)
  obtain ⟨separator, group, same⟩ :=
    separator_inj good.separator good'.separator good.group good'.group same
  have last : w.separator' ++ (w.serial ++ []) = w'.separator' ++ (w'.serial ++ []) := by
    rw [List.append_nil, List.append_nil]
    exact same
  obtain ⟨separator', serial, -⟩ :=
    separator_inj good.separator' good'.separator' good.serial good'.serial last
  cases w
  cases w'
  cases area
  cases separator
  cases group
  cases separator'
  cases serial
  rfl

/-- A form has nine digits. -/
theorem Written.Good.countP (good : w.Good u.digit) :
    w.chars.countP (fun c => (u.digit c).isSome) = 9 := by
  have digits {n : Nat} {cs : List Char} (h : Written.AreDigits u.digit n cs) :
      cs.countP (fun c => (u.digit c).isSome) = n :=
    (List.countP_eq_length.2 h.2).trans h.1
  have separators {s : List Char} (h : Written.IsSeparator s) :
      s.countP (fun c => (u.digit c).isSome) = 0 :=
    List.countP_eq_zero.2 fun c hc => by rw [digit_of_separator h c hc]; decide
  simp only [Written.chars, List.countP_append, digits good.area, digits good.group,
    digits good.serial, separators good.separator, separators good.separator']

theorem Written.Good.head (good : w.Good u.digit) :
    ∀ c ∈ w.chars.head?, (u.digit c).isSome = true := by
  obtain ⟨c, cs, front⟩ := List.exists_cons_of_length_eq_add_one good.area.1
  intro d hd
  rw [Written.chars, front, List.cons_append, List.head?_cons, Option.mem_some_iff] at hd
  exact good.area.2 d (by simp [front, hd])

theorem Written.Good.last (good : w.Good u.digit) :
    ∀ c ∈ w.chars.getLast?, (u.digit c).isSome = true := by
  have nonempty : w.serial ≠ [] := List.ne_nil_of_length_eq_add_one good.serial.1
  intro d hd
  simp only [Written.chars, List.getLast?_append, List.getLast?_eq_some_getLast nonempty,
    Option.some_or, Option.mem_some_iff] at hd
  exact good.serial.2 d (hd ▸ List.getLast_mem nonempty)

/-- The pattern is found in a form that stands alone exactly when its parts are valid. -/
theorem search_form (good : w.Good u.digit) :
    (ssnPattern u.digit).search w.chars = true ↔ w.Valid := by
  constructor
  · intro found
    obtain ⟨front, word, rest, split, matched⟩ := search_iff.1 found
    obtain ⟨w', good', valid, rfl, -⟩ := ssnPattern_matches.1 matched
    have count := good.countP
    rw [split, List.countP_append, List.countP_append, good'.countP] at count
    have noneBefore : front.countP (fun c => (u.digit c).isSome) = 0 := by omega
    have noneAfter : rest.countP (fun c => (u.digit c).isSome) = 0 := by omega
    rw [List.countP_eq_zero] at noneBefore noneAfter
    obtain rfl : front = [] := by
      cases front with
      | nil => rfl
      | cons c cs => exact absurd (good.head c (by rw [split]; rfl)) (noneBefore c List.mem_cons_self)
    obtain rfl : rest = [] := by
      rcases List.eq_nil_or_concat' rest with rfl | ⟨cs, c, rfl⟩
      · rfl
      · refine absurd (good.last c ?_) (noneAfter c (by simp))
        rw [split, ← List.append_assoc, List.getLast?_concat]
        rfl
    rw [List.nil_append, List.append_nil] at split
    rwa [good.inj good' split]
  · intro valid
    refine search_iff.2 ⟨[], w.chars, [], (List.append_nil _).symm, ?_⟩
    exact ssnPattern_matches.2 ⟨w, good, valid, rfl, nofun, nofun⟩

/-- A valid form is found wherever no digit touches it. -/
theorem search_around {front rest : List Char} (good : w.Good u.digit) (valid : w.Valid)
    (clear : Clear u.digit front rest) :
    (ssnPattern u.digit).search (front ++ w.chars ++ rest) = true :=
  search_iff.2 ⟨front, w.chars, rest, rfl, ssnPattern_matches.2 ⟨w, good, valid, rfl, clear⟩⟩

end Search

/-! ## Numbers of nine digits -/

/-- A number, written as nine digits. -/
def nineDigits (n : Nat) : List Char := (digits n).leftpad 9 '0'

/-- The nine digits, with what separates them. -/
def written (n : Nat) (separator separator' : List Char) : Written where
  area := (nineDigits n).take 3
  separator
  group := ((nineDigits n).drop 3).take 2
  separator'
  serial := (nineDigits n).drop 5

/-- The parts of a number are valid. -/
def ValidNumber (n : Nat) : Prop := (written n [] []).Valid

instance : DecidablePred ValidNumber := fun n => inferInstanceAs (Decidable (written n [] []).Valid)

section NineDigits

variable {u : UnicodeDigits} {n : Nat}

theorem length_nineDigits (small : n ≤ 999999999) : (nineDigits n).length = 9 := by
  have short : (digits n).length ≤ 9 :=
    (Nat.length_toDigits_le_iff (by decide) (by decide)).2 (by omega)
  rw [nineDigits, List.length_leftpad]
  omega

theorem isDigit_nineDigits (n : Nat) : ∀ c ∈ nineDigits n, c.isDigit = true := by
  intro c hc
  rcases List.mem_append.1 hc with zero | digit
  · rw [List.eq_of_mem_replicate zero]
    rfl
  · exact isDigit_digits n c digit

theorem zfill_toString (n : Nat) : zfill 9 (toString (n : Int)).toList = nineDigits n := by
  change zfill 9 (toString n).toList = _
  rw [toList_toString]
  cases h : digits n with
  | nil => exact absurd h (digits_ne_nil n)
  | cons c cs =>
    have digit := isDigit_digits n c (by simp [h])
    rw [zfill, if_neg, nineDigits, h]
    rintro (rfl | rfl) <;> exact absurd digit (by decide)

theorem written_chars (n : Nat) : (written n [] []).chars = nineDigits n := by
  simp only [Written.chars, written, List.nil_append]
  rw [show (nineDigits n).drop 5 = ((nineDigits n).drop 3).drop 2 by rw [List.drop_drop],
    List.take_append_drop, List.take_append_drop]

theorem written_good (small : n ≤ 999999999) {s t : List Char} (hs : Written.IsSeparator s)
    (ht : Written.IsSeparator t) : (written n s t).Good u.digit := by
  have length := length_nineDigits small
  have digit {cs : List Char} (sub : cs ⊆ nineDigits n) : ∀ c ∈ cs, (u.digit c).isSome = true :=
    fun c hc => by rw [digit_of_isDigit u (isDigit_nineDigits n c (sub hc))]; rfl
  refine ⟨⟨?_, digit (List.take_subset ..)⟩, hs, ⟨?_, digit ?_⟩, ht, ⟨?_, digit (List.drop_subset ..)⟩⟩
  · simp [written, length]
  · simp [written, length]
  · exact List.Subset.trans (List.take_subset ..) (List.drop_subset ..)
  · simp [written, length]

/-- Separators do not make a part valid. -/
theorem written_valid (n : Nat) (s t : List Char) : (written n s t).Valid ↔ ValidNumber n :=
  ⟨fun h => ⟨h.1, h.2, h.3, h.4, h.5⟩, fun h => ⟨h.1, h.2, h.3, h.4, h.5⟩⟩

theorem numberDetected_nat (small : n ≤ 999999999) :
    numberDetected u.digit n = true ↔ ValidNumber n := by
  have range : (0 : ℚ) ≤ n ∧ (n : ℚ) ≤ 999999999 ∧ (n : ℚ).isInt := by
    refine ⟨Nat.cast_nonneg n, by exact_mod_cast small, ?_⟩
    simp [Rat.isInt]
  have good : (written n [] []).Good u.digit := written_good small (.inl rfl) (.inl rfl)
  rw [numberDetected, if_pos range, Rat.num_natCast, zfill_toString, ← written_chars,
    search_form good, ValidNumber]

/-- A number is detected when it is whole, has at most nine digits, and these have valid parts. -/
theorem numberDetected_iff {number : ℚ} : numberDetected u.digit number = true ↔
    ∃ n : Nat, n ≤ 999999999 ∧ number = n ∧ ValidNumber n := by
  constructor
  · intro h
    have range : 0 ≤ number ∧ number ≤ 999999999 ∧ number.isInt := by
      by_contra outside
      rw [numberDetected, if_neg outside] at h
      cases h
    obtain ⟨nonneg, small, whole⟩ := range
    have whole : (number.num : ℚ) = number := Rat.den_eq_one_iff number |>.1 (by simpa [Rat.isInt] using whole)
    obtain ⟨n, hn⟩ := Int.eq_ofNat_of_zero_le (Rat.num_nonneg.2 nonneg)
    have number_eq : number = n := by
      rw [← whole, hn]
      rfl
    have bound : n ≤ 999999999 := by
      rw [number_eq] at small
      exact_mod_cast small
    rw [number_eq] at h
    exact ⟨n, bound, number_eq, (numberDetected_nat bound).1 h⟩
  · rintro ⟨n, small, rfl, valid⟩
    exact (numberDetected_nat small).2 valid

end NineDigits

/-! ## Cells -/

/-- The number of a cell that is an integer, a finite decimal or a numeric text. -/
def numericValue (u : UnicodeDigits) : Cell → Option ℚ
  | .int n => some n
  | .decimal printed => (decimalOfText u printed).bind PyDecimal.value
  | .text s => (numericSpelling u.digit (strip s).toList).map Numeral.value
  | _ => none

/-- A text has fewer characters than an address space has addresses. -/
def Addressable : Cell → Prop
  | .text s => s.toList.length < 2 ^ 57
  | _ => True

section Cells

variable {u : UnicodeDigits}

theorem contains_eq (value : Cell) (filled : value ≠ .null) (other : ∀ b, value ≠ .bool b) :
    containsSupportedSsn u value =
      if isNumber value || (numericSpelling u.digit (strip value.printed).toList).isSome then
        match (decimalOfText u value.printed).bind PyDecimal.value with
        | none => false
        | some number => numberDetected u.digit number
      else (ssnPattern u.digit).search (strip value.printed).toList := by
  cases value
  case null => exact absurd rfl filled
  case bool b => exact absurd rfl (other b)
  all_goals
    rw [← decimalOfText_strip u]
    rfl

/-- A cell that `Decimal` reads as a number is looked at as this number. -/
theorem contains_of_decimal (value : Cell) {number : ℚ} (filled : value ≠ .null) (other : ∀ b, value ≠ .bool b)
    (numeric : isNumber value = true ∨
      (numericSpelling u.digit (strip value.printed).toList).isSome = true)
    (h : (decimalOfText u value.printed).bind PyDecimal.value = some number) :
    containsSupportedSsn u value = numberDetected u.digit number := by
  rw [contains_eq value filled other, if_pos (Bool.or_eq_true_iff.2 numeric), h]

/-- No valid number is zero. -/
theorem ValidNumber.pos {n : Nat} (valid : ValidNumber n) : 0 < n := by
  refine Nat.pos_of_ne_zero ?_
  rintro rfl
  exact absurd valid (by decide)

/-- A numeral that `Decimal` refuses is no valid number of nine digits. -/
theorem numberDetected_of_refused {n : Numeral} (refused : n.decimal = none)
    (short : n.scaleExponent < 0 → ∃ length < 2 ^ 57, n.coefficient < 10 ^ length) :
    numberDetected u.digit n.value = false := by
  rw [← Bool.not_eq_true, numberDetected_iff]
  rintro ⟨k, small, value, valid⟩
  exact n.value_of_refused refused short valid.pos small value

/-- A numeric spelling is looked at as its value, also when `Decimal` refuses it. -/
theorem contains_of_spelling (value : Cell) {n : Numeral} (filled : value ≠ .null)
    (other : ∀ b, value ≠ .bool b)
    (spelled : numericSpelling u.digit (strip value.printed).toList = some n)
    (short : n.scaleExponent < 0 → ∃ length < 2 ^ 57, n.coefficient < 10 ^ length) :
    containsSupportedSsn u value = numberDetected u.digit n.value := by
  rw [contains_eq value filled other, if_pos (by rw [spelled]; simp), decimalOfText_numeric spelled]
  cases h : n.decimal with
  | none =>
    rw [numberDetected_of_refused h short]
    rfl
  | some d =>
    rw [Option.bind_some, Numeral.value_decimal h]

/-- Integers, finite decimals and numeric texts are looked at as their numbers. -/
theorem contains_of_numericValue {value : Cell} {number : ℚ} (h : numericValue u value = some number)
    (addressable : Addressable value) :
    containsSupportedSsn u value = numberDetected u.digit number := by
  cases value with
  | int n =>
    cases h
    obtain ⟨m, spelled, value, exponent⟩ := numericSpelling_int u n
    rw [← value]
    refine contains_of_spelling _ nofun nofun ?_ fun negative => ?_
    · rw [Cell.printed, strip_int, spelled]
    · rw [exponent] at negative
      exact absurd negative (by decide)
  | decimal printed => exact contains_of_decimal _ nofun nofun (.inl rfl) h
  | text s =>
    obtain ⟨n, spelled, rfl⟩ := Option.map_eq_some_iff.1 h
    refine contains_of_spelling _ nofun nofun spelled fun _ => ⟨_, ?_, coefficient_lt spelled⟩
    exact lt_of_le_of_lt (strip_length s) addressable
  | _ => cases h

end Cells

/-! ## Forms as cells -/

section Forms

variable {u : UnicodeDigits} {n : Nat} {s t front rest : List Char}

theorem numeral_nineDigits (n : Nat) : numeral (nineDigits n) = n := by
  have zeros (k : Nat) : (List.replicate k '0').foldl (fun n c => 10 * n + (c.toNat - '0'.toNat)) 0 =
      0 := by
    induction k with
    | zero => rfl
    | succ k ih => exact ih
  rw [nineDigits, List.leftpad, numeral, List.foldl_append, zeros]
  exact numeral_digits n

theorem nineDigits_ne_nil (n : Nat) : nineDigits n ≠ [] :=
  List.append_ne_nil_of_right_ne_nil _ (digits_ne_nil n)

theorem numericSpelling_nineDigits (u : UnicodeDigits) (n : Nat) :
    ∃ m, numericSpelling u.digit (nineDigits n) = some m ∧ m.value = n ∧ m.scaleExponent = 0 := by
  have spelled := (integerSpelling_digits u (nineDigits_ne_nil n) (isDigit_nineDigits n)).1
  refine ⟨_, by rw [numericSpelling, spelled, Option.some_or], ?_, rfl⟩
  rw [integerSpelling_value spelled]
  simp only [Numeral.toInt, numeralValue_digitValues u (isDigit_nineDigits n), numeral_nineDigits]
  rfl

/-- A separator makes a form a text. -/
theorem numericSpelling_written (small : n ≤ 999999999) (hs : Written.IsSeparator s)
    (ht : Written.IsSeparator t) (separated : ¬ (s = [] ∧ t = [])) :
    numericSpelling u.digit (written n s t).chars = none := by
  have length := length_nineDigits small
  have stop {cs rest r : List Char} (nonempty : cs ≠ []) (sub : cs ⊆ nineDigits n)
      (hr : Written.IsSeparator r) (some_separator : r ≠ []) :
      numericSpelling u.digit (cs ++ (r ++ rest)) = none := by
    have all : ∀ c ∈ cs, c.isDigit = true := fun c hc => isDigit_nineDigits n c (sub hc)
    rcases hr with rfl | rfl | rfl
    · exact absurd rfl some_separator
    · refine numericSpelling_eq_none u nonempty all ?_ (by decide)
      rw [u.ascii _ (by decide)]
      rfl
    · refine numericSpelling_eq_none u nonempty all ?_ (by decide)
      rw [u.ascii _ (by decide)]
      rfl
  have area : (written n s t).area ≠ [] := by
    refine List.ne_nil_of_length_pos ?_
    simp [written, length]
  by_cases first : s = []
  · subst first
    have joined : (written n [] t).chars = ((written n [] t).area ++ (written n [] t).group) ++
        (t ++ (written n [] t).serial) := by
      simp [Written.chars, written]
    rw [joined]
    refine stop (List.append_ne_nil_of_left_ne_nil area _) ?_ ht fun h => separated ⟨rfl, h⟩
    refine List.append_subset.2 ⟨List.take_subset .., ?_⟩
    exact List.Subset.trans (List.take_subset ..) (List.drop_subset ..)
  · exact stop area (List.take_subset ..) hs first

/-- Stripping a text takes nothing from a form in it. -/
theorem strip_around_form {w : Written} (good : w.Good u.digit) (front rest : List Char) :
    (strip (String.ofList (front ++ w.chars ++ rest))).toList =
      front.dropWhile isSpace ++ w.chars ++ rest.rdropWhile isSpace := by
  refine toList_strip_around ?_ (fun c hc => u.visible c (good.head c hc)) fun c hc =>
    u.visible c (good.last c hc)
  intro empty
  have count := good.countP
  rw [empty] at count
  cases count

theorem contains_text {text : String} {cs : List Char} (stripped : (strip text).toList = cs)
    (plain : numericSpelling u.digit cs = none) :
    containsSupportedSsn u (.text text) = (ssnPattern u.digit).search cs := by
  subst stripped
  rw [contains_eq (.text text) nofun nofun, if_neg]
  · rfl
  · simp [isNumber, Cell.printed, plain]

/-- A form is detected exactly when its number is. -/
theorem contains_written (small : n ≤ 999999999) (hs : Written.IsSeparator s)
    (ht : Written.IsSeparator t) :
    containsSupportedSsn u (.text (String.ofList (written n s t).chars)) = true ↔ ValidNumber n := by
  have good : (written n s t).Good u.digit := written_good small hs ht
  have stripped := strip_around_form good [] []
  rw [List.nil_append, List.append_nil, List.dropWhile_nil, List.rdropWhile_nil, List.nil_append,
    List.append_nil] at stripped
  by_cases separated : s = [] ∧ t = []
  · obtain ⟨rfl, rfl⟩ := separated
    obtain ⟨m, spelled, value, exponent⟩ := numericSpelling_nineDigits u n
    rw [← written_chars, ← stripped] at spelled
    have looked := contains_of_spelling (u := u) (.text (String.ofList (written n [] []).chars))
      nofun nofun spelled fun negative => by
        rw [exponent] at negative
        exact absurd negative (by decide)
    rw [looked, value]
    exact numberDetected_nat small
  · rw [contains_text stripped (numericSpelling_written small hs ht separated), search_form good,
      written_valid]

/-- A detected form is detected in every text around it that no digit touches and that is no number. -/
theorem contains_embedded (small : n ≤ 999999999) (hs : Written.IsSeparator s)
    (ht : Written.IsSeparator t) (clear : Clear u.digit front rest) (valid : ValidNumber n)
    (plain : numericSpelling u.digit
      (strip (String.ofList (front ++ (written n s t).chars ++ rest))).toList = none) :
    containsSupportedSsn u (.text (String.ofList (front ++ (written n s t).chars ++ rest))) =
      true := by
  have good : (written n s t).Good u.digit := written_good small hs ht
  have stripped := strip_around_form good front rest
  rw [contains_text stripped (stripped ▸ plain)]
  refine search_around good ((written_valid n s t).2 valid) ⟨fun c hc => ?_, fun c hc => ?_⟩
  · refine clear.front c ?_
    rw [← List.takeWhile_append_dropWhile (p := isSpace) (l := front), List.getLast?_append, hc]
    rfl
  · obtain ⟨spaces, split⟩ := List.rdropWhile_prefix isSpace rest
    refine clear.rest c ?_
    rw [← split, List.head?_append, hc]
    rfl

end Forms

end Ssn

end DataMover
