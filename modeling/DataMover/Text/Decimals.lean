import DataMover.Engine.Labels
import DataMover.Text.Numbers

/-!
# Decimals from text

`decimal.Decimal(text)` for every text, and the text that Python prints for a cell.  A numeric text is
made of digits, signs, a point and an exponent letter, so neither stripping it nor removing its
underscores changes it.
-/

namespace DataMover

/-! ## Texts of cells -/

/-- A byte of `repr(data)` between these quotes. -/
def byteRepr (quote : Nat) (b : UInt8) : List Char :=
  let n := b.toNat
  let c := Char.ofNat n
  if n = quote ∨ c = '\\' then ['\\', c]
  else if c = '\t' then ['\\', 't']
  else if c = '\n' then ['\\', 'n']
  else if c = '\r' then ['\\', 'r']
  else if n < 32 ∨ 127 ≤ n then ['\\', 'x', Nat.digitChar (n / 16), Nat.digitChar (n % 16)]
  else [c]

/-- `repr(data)`: in apostrophes, unless the data has apostrophes and no quotation mark. -/
def bytesRepr (data : Bytes) : String :=
  let quote := if 39 ∈ data ∧ 34 ∉ data then 34 else 39
  String.ofList ('b' :: Char.ofNat quote :: data.flatMap (byteRepr quote) ++ [Char.ofNat quote])

/-- `str(value)`; the integers of a column have at most 128 bits, which `str` always prints. -/
def Cell.printed : Cell → String
  | null => "None"
  | bool b => if b then "True" else "False"
  | int n => toString n
  | float printed | decimal printed | other _ printed => printed
  | text s => s
  | bytes data => bytesRepr data

/-! ## Decimal digits -/

/-- What `\d` makes of a character: below 128 the ASCII digits, and never a space. -/
structure UnicodeDigits where
  digit : DigitKind
  lt_ten : ∀ c d, digit c = some d → d < 10
  ascii : ∀ c : Char, c.toNat < 128 → digit c = asciiDigit c
  visible : ∀ c, (digit c).isSome → isSpace c = false

/-- `Inf`, `Infinity`, `NaN` or `sNaN`, with a sign, and the last two with digits; letters of any
case. -/
def specialSpelling (digit : DigitKind) (cs : List Char) : Bool :=
  let name := (optionalSign cs).2
  let letters := name.map Char.toLower
  let diagnosed (word : List Char) : Bool :=
    word.isPrefixOf letters && (name.drop word.length).all fun c => (digit c).isSome
  letters = "inf".toList || letters = "infinity".toList || diagnosed "nan".toList ||
    diagnosed "snan".toList

/-- `Decimal(text)`, which strips the text and ignores underscores; `none` is `InvalidOperation`. -/
def decimalOfText (u : UnicodeDigits) (text : String) : Option PyDecimal :=
  let cs := (strip text).toList.filter fun c => c ≠ '_'
  match numericSpelling u.digit cs with
  | some n => n.decimal
  | none => if specialSpelling u.digit cs then some .nonFinite else none

/-! ## Stripping -/

theorem toList_strip (s : String) :
    (strip s).toList = (s.toList.dropWhile isSpace).rdropWhile isSpace := by
  rw [strip, String.toList_ofList]
  rfl

/-- Stripping only removes spaces around the text. -/
theorem strip_strip (s : String) : strip (strip s) = strip s := by
  by_cases empty : (strip s).toList = []
  · rw [String.toList_eq_nil_iff.1 empty]
    rfl
  obtain ⟨c, cs, front⟩ := List.exists_cons_of_ne_nil empty
  obtain ⟨ds, d, back⟩ := List.eq_nil_or_concat' (strip s).toList |>.resolve_left empty
  refine strip_of_ends front back ?_ ?_
  · obtain ⟨rest, h⟩ := List.rdropWhile_prefix (p := isSpace) (s.toList.dropWhile isSpace)
    have first := List.head?_dropWhile_not isSpace s.toList
    rw [← h, ← toList_strip, front] at first
    exact first
  · rw [toList_strip] at empty back
    have last := List.rdropWhile_last_not (p := isSpace) _ empty
    simp only [back, List.getLast_concat] at last
    simpa using last

theorem strip_length (s : String) : (strip s).toList.length ≤ s.toList.length := by
  rw [toList_strip]
  exact (List.rdropWhile_prefix _ _).length_le.trans (List.length_dropWhile_le _ _)

/-- Stripping brings no characters. -/
theorem mem_of_strip {s : String} {c : Char} (h : c ∈ (strip s).toList) : c ∈ s.toList := by
  rw [toList_strip] at h
  exact (List.dropWhile_suffix isSpace).subset ((List.rdropWhile_prefix _ _).subset h)

theorem mem_dropWhile {α : Type} {p : α → Bool} {xs : List α} {x : α} (h : x ∈ xs)
    (stays : p x = false) : x ∈ xs.dropWhile p := by
  rw [← List.takeWhile_append_dropWhile (p := p) (l := xs), List.mem_append] at h
  refine h.resolve_left fun taken => ?_
  rw [List.mem_takeWhile_imp taken] at stays
  cases stays

/-- Stripping keeps all other characters. -/
theorem mem_strip {s : String} {c : Char} (h : c ∈ s.toList) (visible : isSpace c = false) :
    c ∈ (strip s).toList := by
  rw [toList_strip, List.rdropWhile, List.mem_reverse]
  exact mem_dropWhile (List.mem_reverse.2 (mem_dropWhile h visible)) visible

/-- A text without spaces stays. -/
theorem strip_of_visible {s : String} (visible : ∀ c ∈ s.toList, isSpace c = false) :
    strip s = s := by
  by_cases empty : s.toList = []
  · rw [String.toList_eq_nil_iff.1 empty]
    rfl
  obtain ⟨c, cs, front⟩ := List.exists_cons_of_ne_nil empty
  obtain ⟨ds, d, back⟩ := List.eq_nil_or_concat' s.toList |>.resolve_left empty
  refine strip_of_ends front back (visible c ?_) (visible d ?_)
  · simp [front]
  · simp [back]

theorem isSpace_of_isDigit {c : Char} (h : c.isDigit = true) : isSpace c = false := by
  have bounds : 48 ≤ c.val ∧ c.val ≤ 57 := by simpa [Char.isDigit] using h
  have low : 48 ≤ c.toNat := UInt32.le_iff_toNat_le.1 bounds.1
  have high : c.toNat ≤ 57 := UInt32.le_iff_toNat_le.1 bounds.2
  simp only [isSpace, Bool.or_eq_false_iff, Bool.and_eq_false_iff, decide_eq_false_iff_not]
  omega

theorem decimalOfText_strip (u : UnicodeDigits) (text : String) :
    decimalOfText u (strip text) = decimalOfText u text := by
  rw [decimalOfText, strip_strip, decimalOfText]

theorem dropWhile_append_of_stays {α : Type} {p : α → Bool} {xs ys : List α}
    (stays : ys.dropWhile p = ys) : (xs ++ ys).dropWhile p = xs.dropWhile p ++ ys := by
  rw [List.dropWhile_append]
  split
  · rename_i h
    rw [List.isEmpty_iff.1 h, stays]
    rfl
  · rfl

/-- The spaces around a text that starts and ends with other characters go; the text stays. -/
theorem toList_strip_around {front word rest : List Char} (nonempty : word ≠ [])
    (head : ∀ c ∈ word.head?, isSpace c = false) (last : ∀ c ∈ word.getLast?, isSpace c = false) :
    (strip (String.ofList (front ++ word ++ rest))).toList =
      front.dropWhile isSpace ++ word ++ rest.rdropWhile isSpace := by
  have starts : (word ++ rest).dropWhile isSpace = word ++ rest := by
    cases word with
    | nil => exact absurd rfl nonempty
    | cons c cs => simp [head c rfl]
  have ends : (front.dropWhile isSpace ++ word).reverse.dropWhile isSpace =
      (front.dropWhile isSpace ++ word).reverse := by
    rw [List.reverse_append]
    cases h : word.reverse with
    | nil => exact absurd (List.reverse_eq_nil_iff.1 h) nonempty
    | cons c cs =>
      have : word.getLast? = some c := by rw [← List.head?_reverse, h, List.head?_cons]
      simp [last c this]
  rw [toList_strip, String.toList_ofList, List.append_assoc, dropWhile_append_of_stays starts,
    ← List.append_assoc, List.rdropWhile, List.reverse_append, dropWhile_append_of_stays ends,
    List.reverse_append, List.reverse_reverse]
  rfl

/-! ## Spellings -/

section Spellings

variable {digit : DigitKind}

/-- A run of digits, and what stops it. -/
theorem digitRun_split (digit : DigitKind) (cs : List Char) : ∃ front,
    cs = front ++ (digitRun digit cs).2 ∧ (digitRun digit cs).1.length = front.length ∧
      ∀ c ∈ front, (digit c).isSome := by
  induction cs with
  | nil => exact ⟨[], rfl, rfl, nofun⟩
  | cons c cs ih =>
    rw [digitRun]
    cases h : digit c with
    | none => exact ⟨[], rfl, rfl, nofun⟩
    | some d =>
      obtain ⟨front, split, length, all⟩ := ih
      refine ⟨c :: front, congrArg (c :: ·) split, congrArg (· + 1) length, ?_⟩
      rintro b (_ | ⟨_, hb⟩)
      · rw [h]
        rfl
      · exact all b hb

/-- The values of digits. -/
def digitValues (digit : DigitKind) (cs : List Char) : List Nat := cs.filterMap digit

/-- A run goes on while there are digits. -/
theorem digitRun_append {front rest : List Char} (all : ∀ c ∈ front, (digit c).isSome)
    (stop : ∀ c ∈ rest.head?, digit c = none) :
    digitRun digit (front ++ rest) = (digitValues digit front, rest) := by
  induction front with
  | nil =>
    cases rest with
    | nil => rfl
    | cons c cs =>
      rw [List.nil_append, digitRun, stop c rfl]
      rfl
  | cons c front ih =>
    obtain ⟨d, hd⟩ := Option.isSome_iff_exists.1 (all c List.mem_cons_self)
    rw [List.cons_append, digitRun, hd, ih fun b hb => all b (List.mem_cons_of_mem c hb),
      digitValues, digitValues, List.filterMap_cons_some hd]

/-- The characters that numeric texts are made of. -/
def NumericChar (digit : DigitKind) (c : Char) : Prop :=
  (digit c).isSome ∨ c ∈ ['+', '-', '.', 'e', 'E']

instance : DecidablePred (NumericChar digit) := fun _ => inferInstanceAs (Decidable (_ ∨ _))

theorem optionalSign_chars {cs : List Char} (h : ∀ c ∈ (optionalSign cs).2, NumericChar digit c) :
    ∀ c ∈ cs, NumericChar digit c := by
  cases cs with
  | nil => exact h
  | cons c cs =>
    rw [optionalSign] at h
    split_ifs at h with minus plus
    · subst minus
      exact List.forall_mem_cons.2 ⟨.inr (by decide), h⟩
    · subst plus
      exact List.forall_mem_cons.2 ⟨.inr (by decide), h⟩
    · exact h

theorem digitRun_chars {cs : List Char} (h : ∀ c ∈ (digitRun digit cs).2, NumericChar digit c) :
    ∀ c ∈ cs, NumericChar digit c := by
  obtain ⟨front, split, -, all⟩ := digitRun_split digit cs
  rw [split]
  exact List.forall_mem_append.2 ⟨fun c hc => .inl (all c hc), h⟩

theorem exponentPart_chars {cs : List Char} {e : Int} (h : exponentPart digit cs = some e) :
    ∀ c ∈ cs, NumericChar digit c := by
  cases cs with
  | nil => exact nofun
  | cons c cs =>
    rw [exponentPart] at h
    split_ifs at h with letter
    dsimp only at h
    split at h
    · rename_i run
      refine List.forall_mem_cons.2 ⟨.inr ?_, optionalSign_chars (digitRun_chars ?_)⟩
      · rcases letter with rfl | rfl <;> decide
      · rw [run]
        exact nofun
    · cases h

theorem integerSpelling_chars {cs : List Char} {n : Numeral}
    (h : integerSpelling digit cs = some n) : ∀ c ∈ cs, NumericChar digit c := by
  unfold integerSpelling at h
  dsimp only at h
  split at h
  · rename_i run
    refine optionalSign_chars (digitRun_chars ?_)
    rw [run]
    exact nofun
  · cases h

theorem decimalSpelling_chars {cs : List Char} {n : Numeral}
    (h : decimalSpelling digit cs = some n) : ∀ c ∈ cs, NumericChar digit c := by
  unfold decimalSpelling at h
  dsimp only at h
  refine optionalSign_chars (digitRun_chars ?_)
  split at h
  · cases h
  · rename_i c rest run
    rw [run]
    split_ifs at h with point empty done bare
    · subst point
      refine List.forall_mem_cons.2 ⟨.inr (by decide), digitRun_chars ?_⟩
      rw [done]
      exact nofun
    · subst point
      obtain ⟨e, he, -⟩ := Option.map_eq_some_iff.1 h
      exact List.forall_mem_cons.2 ⟨.inr (by decide), digitRun_chars (exponentPart_chars he)⟩
    · obtain ⟨e, he, -⟩ := Option.map_eq_some_iff.1 h
      exact exponentPart_chars he

/-- A numeric text is made of numeric characters. -/
theorem numericSpelling_chars {cs : List Char} {n : Numeral}
    (h : numericSpelling digit cs = some n) : ∀ c ∈ cs, NumericChar digit c := by
  rcases Option.or_eq_some_iff.1 h with h | ⟨-, h⟩
  · exact integerSpelling_chars h
  · exact decimalSpelling_chars h

/-! ### How many digits -/

theorem length_optionalSign (cs : List Char) : (optionalSign cs).2.length ≤ cs.length := by
  cases cs with
  | nil => exact le_rfl
  | cons c cs =>
    rw [optionalSign]
    split_ifs <;> simp

/-- A run takes as many characters as it has digits. -/
theorem length_digitRun (digit : DigitKind) (cs : List Char) :
    (digitRun digit cs).1.length + (digitRun digit cs).2.length = cs.length := by
  obtain ⟨front, split, length, -⟩ := digitRun_split digit cs
  have total := congrArg List.length split
  rw [List.length_append] at total
  omega

/-- A numeral has no more digits than characters. -/
theorem numericSpelling_length {cs : List Char} {n : Numeral}
    (h : numericSpelling digit cs = some n) : (n.whole ++ n.fraction).length ≤ cs.length := by
  have sign := length_optionalSign cs
  have run := length_digitRun digit (optionalSign cs).2
  rw [List.length_append]
  rcases Option.or_eq_some_iff.1 h with h | ⟨-, h⟩
  · unfold integerSpelling at h
    dsimp only at h
    split at h
    · rename_i digits
      cases h
      rw [digits] at run
      simp only [List.length_cons, List.length_nil] at run ⊢
      omega
    · cases h
  · unfold decimalSpelling at h
    dsimp only at h
    split at h
    · cases h
    · rename_i c rest after
      rw [after] at run
      have more := length_digitRun digit rest
      simp only [List.length_cons] at run
      split_ifs at h with point empty done bare
      · cases h
        dsimp only
        omega
      · obtain ⟨e, -, rfl⟩ := Option.map_eq_some_iff.1 h
        dsimp only
        omega
      · obtain ⟨e, -, rfl⟩ := Option.map_eq_some_iff.1 h
        simp only [List.length_nil]
        omega

end Spellings

/-! ## Values -/

section Values

variable {u : UnicodeDigits}

theorem digitRun_lt_ten (u : UnicodeDigits) (cs : List Char) :
    ∀ d ∈ (digitRun u.digit cs).1, d < 10 := by
  induction cs with
  | nil => exact nofun
  | cons c cs ih =>
    rw [digitRun]
    cases h : u.digit c with
    | none => exact nofun
    | some d => exact List.forall_mem_cons.2 ⟨u.lt_ten c d h, ih⟩

theorem numericSpelling_lt_ten {cs : List Char} {n : Numeral}
    (h : numericSpelling u.digit cs = some n) : ∀ d ∈ n.whole ++ n.fraction, d < 10 := by
  have run := digitRun_lt_ten u (optionalSign cs).2
  rcases Option.or_eq_some_iff.1 h with h | ⟨-, h⟩
  · unfold integerSpelling at h
    dsimp only at h
    split at h
    · rename_i digits
      cases h
      rw [digits] at run
      simpa using run
    · cases h
  · unfold decimalSpelling at h
    dsimp only at h
    split at h
    · cases h
    · rename_i c rest after
      have more := digitRun_lt_ten u rest
      split_ifs at h with point empty done bare
      · cases h
        exact List.forall_mem_append.2 ⟨run, more⟩
      · obtain ⟨e, -, rfl⟩ := Option.map_eq_some_iff.1 h
        exact List.forall_mem_append.2 ⟨run, more⟩
      · obtain ⟨e, -, rfl⟩ := Option.map_eq_some_iff.1 h
        exact List.forall_mem_append.2 ⟨run, nofun⟩

/-- The digits of a text are a number below the power of ten that its length counts. -/
theorem coefficient_lt {cs : List Char} {n : Numeral} (h : numericSpelling u.digit cs = some n) :
    n.coefficient < 10 ^ cs.length := by
  have bound : n.coefficient < 10 ^ (n.whole ++ n.fraction).reverse.length :=
    Nat.ofDigits_lt_base_pow_length (by decide) fun d hd =>
      numericSpelling_lt_ten h d (List.mem_reverse.1 hd)
  rw [List.length_reverse] at bound
  exact bound.trans_le (Nat.pow_le_pow_right (by decide) (numericSpelling_length h))

/-- A number reaches the power of ten before its first digit. -/
theorem pow_digitCount_le {coefficient : Nat} (nonzero : coefficient ≠ 0) :
    10 ^ digitCount coefficient ≤ 10 * coefficient := by
  have some_digit : 1 ≤ (Nat.digits 10 coefficient).length :=
    List.length_pos_iff.2 (Nat.digits_ne_nil_iff_ne_zero.2 nonzero)
  rw [digitCount, max_eq_right some_digit]
  exact Nat.base_pow_length_digits_le 10 coefficient (by decide) nonzero

/-- `Decimal` refuses a numeral of fewer than 2^57 digits only when its exponent is huge, or when it is
a zero or a tiny fraction. -/
theorem Numeral.value_of_refused {n : Numeral} (refused : n.decimal = none)
    (short : n.scaleExponent < 0 → ∃ length < 2 ^ 57, n.coefficient < 10 ^ length) {k : Nat}
    (positive : 0 < k) (small : k ≤ 999999999) : n.value ≠ k := by
  unfold Numeral.decimal at refused
  split_ifs at refused with outside
  intro value
  have power : (0 : ℚ) < 10 ^ n.scaleExponent := zpow_pos (by norm_num) _
  have product : (n.coefficient : ℚ) * 10 ^ n.scaleExponent = k := by
    have size := congrArg abs value
    rw [Numeral.value, scaledValue, abs_mul, abs_mul, Nat.abs_cast, Nat.abs_cast,
      abs_of_pos power] at size
    rw [← size]
    split_ifs <;> norm_num
  have nonzero : n.coefficient ≠ 0 := by
    intro zero
    rw [zero, Nat.cast_zero, zero_mul, eq_comm, Nat.cast_eq_zero] at product
    omega
  rcases outside with huge | tiny
  · have large : (11 : ℤ) ≤ digitCount n.coefficient + n.scaleExponent := by
      unfold maxEmax at huge
      omega
    have reached : (10 : ℚ) ^ digitCount n.coefficient ≤ 10 * n.coefficient := by
      exact_mod_cast pow_digitCount_le nonzero
    have : (10 : ℚ) ^ (11 : ℤ) ≤ 10 * k := calc
      (10 : ℚ) ^ (11 : ℤ) ≤ 10 ^ ((digitCount n.coefficient : ℤ) + n.scaleExponent) :=
        zpow_le_zpow_right₀ (by norm_num) large
      _ = 10 ^ digitCount n.coefficient * 10 ^ n.scaleExponent := by
        rw [zpow_add₀ (by norm_num), zpow_natCast]
      _ ≤ 10 * n.coefficient * 10 ^ n.scaleExponent := by gcongr
      _ = 10 * k := by rw [mul_assoc, product]
    have bounded : (k : ℚ) ≤ 999999999 := by exact_mod_cast small
    norm_num at this
    linarith
  · obtain ⟨length, short, bound⟩ := short (by
      unfold minEtiny at tiny
      omega)
    have deep : (length : ℤ) + n.scaleExponent ≤ 0 := by
      unfold minEtiny at tiny
      omega
    have below : (k : ℚ) < 1 := calc
      (k : ℚ) = n.coefficient * 10 ^ n.scaleExponent := product.symm
      _ < 10 ^ length * 10 ^ n.scaleExponent := by
        gcongr
        exact_mod_cast bound
      _ = 10 ^ ((length : ℤ) + n.scaleExponent) := by
        rw [zpow_add₀ (by norm_num), zpow_natCast]
      _ ≤ 1 := zpow_le_one_of_nonpos₀ (by norm_num) deep
    have none_left : k < 1 := by exact_mod_cast below
    omega

/-! ### Texts of numbers -/

theorem underscore_notMem {cs : List Char} {n : Numeral} (h : numericSpelling u.digit cs = some n) :
    '_' ∉ cs := by
  intro hc
  rcases numericSpelling_chars h _ hc with digit | mark
  · rw [u.ascii _ (by decide)] at digit
    exact absurd digit (by decide)
  · exact absurd mark (by decide)

theorem filter_underscore {cs : List Char} (h : '_' ∉ cs) : (cs.filter fun c => c ≠ '_') = cs :=
  List.filter_eq_self.2 fun _ hc => decide_eq_true fun e => h (e ▸ hc)

/-- `Decimal` reads a numeric text as it is spelled. -/
theorem decimalOfText_numeric {text : String} {n : Numeral}
    (h : numericSpelling u.digit (strip text).toList = some n) : decimalOfText u text = n.decimal := by
  rw [decimalOfText, filter_underscore (underscore_notMem h), h]

/-- A text without underscores that `Decimal` reads as a number is a numeric text. -/
theorem numericSpelling_of_finite {text : String} {negative : Bool} {coefficient : Nat}
    {exponent : Int} (h : decimalOfText u text = some (.finite negative coefficient exponent))
    (plain : '_' ∉ text.toList) : (numericSpelling u.digit (strip text).toList).isSome := by
  have stripped : '_' ∉ (strip text).toList := by
    intro hc
    rw [toList_strip] at hc
    exact plain ((List.dropWhile_sublist _).subset ((List.rdropWhile_prefix _ _).subset hc))
  rw [decimalOfText, filter_underscore stripped] at h
  cases spelled : numericSpelling u.digit (strip text).toList with
  | none =>
    rw [spelled] at h
    dsimp only at h
    split_ifs at h
    cases h
  | some n => rfl

theorem digit_of_isDigit (u : UnicodeDigits) {c : Char} (h : c.isDigit = true) :
    u.digit c = some (c.toNat - '0'.toNat) := by
  have small : c.toNat < 128 := by
    have := UInt32.le_iff_toNat_le.1 (by simpa [Char.isDigit] using h : 48 ≤ c.val ∧ c.val ≤ 57).2
    exact lt_of_le_of_lt this (by decide)
  rw [u.ascii c small, asciiDigit, if_pos h]

/-- The number that ASCII digits spell. -/
theorem numeralValue_digitValues (u : UnicodeDigits) {cs : List Char}
    (all : ∀ c ∈ cs, c.isDigit = true) : numeralValue (digitValues u.digit cs) = numeral cs := by
  have values : digitValues u.digit cs = cs.map fun c => c.toNat - '0'.toNat := by
    rw [digitValues, List.filterMap_congr fun c hc => digit_of_isDigit u (all c hc),
      List.filterMap_eq_map' ]
  rw [values, numeralValue, Nat.ofDigits_eq_foldr, List.foldr_reverse, List.foldl_map, numeral]
  congr 1
  funext n c
  simp only [Nat.cast_id]
  omega

theorem optionalSign_digit {c : Char} (cs : List Char) (h : c.isDigit = true) :
    optionalSign (c :: cs) = (false, c :: cs) := by
  rw [optionalSign, if_neg, if_neg]
  all_goals
    rintro rfl
    exact absurd h (by decide)

theorem digitRun_digits (u : UnicodeDigits) {cs : List Char} (rest : List Char)
    (all : ∀ c ∈ cs, c.isDigit = true) (stop : ∀ c ∈ rest.head?, u.digit c = none) :
    digitRun u.digit (cs ++ rest) = (digitValues u.digit cs, rest) :=
  digitRun_append (fun c hc => by rw [digit_of_isDigit u (all c hc)]; rfl) stop

/-- A text that goes on after its first digits with another character is no number, unless the
character is a point or starts an exponent. -/
theorem numericSpelling_eq_none (u : UnicodeDigits) {cs rest : List Char} {c : Char}
    (nonempty : cs ≠ []) (all : ∀ c ∈ cs, c.isDigit = true) (stop : u.digit c = none)
    (other : c ≠ '.' ∧ c ≠ 'e' ∧ c ≠ 'E') : numericSpelling u.digit (cs ++ c :: rest) = none := by
  have run : digitRun u.digit (cs ++ c :: rest) = (digitValues u.digit cs, c :: rest) :=
    digitRun_digits u _ all (by rintro d ⟨⟩; exact stop)
  cases cs with
  | nil => exact absurd rfl nonempty
  | cons d cs =>
    have digit := all d List.mem_cons_self
    have values : digitValues u.digit (d :: cs) =
        (d.toNat - '0'.toNat) :: digitValues u.digit cs :=
      List.filterMap_cons_some (digit_of_isDigit u digit)
    rw [List.cons_append] at run ⊢
    have exponent : exponentPart u.digit (c :: rest) = none := by
      rw [exponentPart, if_neg (by tauto)]
    rw [numericSpelling, integerSpelling, decimalSpelling, optionalSign_digit _ digit]
    dsimp only
    rw [run, values]
    dsimp only
    rw [if_neg other.1, if_neg (List.cons_ne_nil _ _), exponent]
    rfl

/-- ASCII digits, with or without a sign, are an integer. -/
theorem integerSpelling_digits (u : UnicodeDigits) {cs : List Char} (nonempty : cs ≠ [])
    (all : ∀ c ∈ cs, c.isDigit = true) :
    integerSpelling u.digit cs = some ⟨false, digitValues u.digit cs, [], 0⟩ ∧
      integerSpelling u.digit ('-' :: cs) = some ⟨true, digitValues u.digit cs, [], 0⟩ := by
  have run : digitRun u.digit cs = (digitValues u.digit cs, []) := by
    have := digitRun_digits u [] all nofun
    rwa [List.append_nil] at this
  cases cs with
  | nil => exact absurd rfl nonempty
  | cons c cs =>
    have first := digit_of_isDigit u (all c List.mem_cons_self)
    have values : digitValues u.digit (c :: cs) =
        (c.toNat - '0'.toNat) :: digitValues u.digit cs := List.filterMap_cons_some first
    constructor
    · rw [integerSpelling, optionalSign_digit cs (all c List.mem_cons_self)]
      dsimp only
      rw [run, values]
    · rw [integerSpelling, optionalSign, if_pos rfl]
      dsimp only
      rw [run, values]

theorem toList_toString_ofNat (n : Nat) : (toString (Int.ofNat n)).toList = digits n :=
  toList_toString n

/-- The text of an integer is numeric, and denotes the integer. -/
theorem numericSpelling_int (u : UnicodeDigits) (n : Int) :
    ∃ m, numericSpelling u.digit (toString n).toList = some m ∧ m.value = n ∧
      m.scaleExponent = 0 := by
  cases n with
  | ofNat n =>
    have spelled := (integerSpelling_digits u (digits_ne_nil n) (isDigit_digits n)).1
    refine ⟨_, by rw [toList_toString_ofNat, numericSpelling, spelled, Option.some_or], ?_, rfl⟩
    rw [integerSpelling_value spelled]
    simp only [Numeral.toInt, numeralValue_digitValues u (isDigit_digits n), numeral_digits]
    rfl
  | negSucc n =>
    have spelled := (integerSpelling_digits u (digits_ne_nil (n + 1)) (isDigit_digits (n + 1))).2
    refine ⟨_, by rw [toList_negSucc, numericSpelling, spelled, Option.some_or], ?_, rfl⟩
    rw [integerSpelling_value spelled]
    simp only [Numeral.toInt, numeralValue_digitValues u (isDigit_digits (n + 1)), numeral_digits]
    rfl

theorem strip_int (n : Int) : strip (toString n) = toString n := by
  refine strip_of_visible fun c hc => ?_
  rcases isNumeral_int n c hc with rfl | digit
  · decide
  · exact isSpace_of_isDigit digit

/-- A text with a letter that no number has is no number. -/
theorem decimalOfText_letter (u : UnicodeDigits) {text : String} {c : Char} (mem : c ∈ text.toList)
    (visible : isSpace c = false) (letter : c ≠ '_') (other : ¬ NumericChar u.digit c)
    (negative : Bool) (coefficient : Nat) (exponent : Int) :
    decimalOfText u text ≠ some (.finite negative coefficient exponent) := by
  have kept : c ∈ (strip text).toList.filter fun c => c ≠ '_' :=
    List.mem_filter.2 ⟨mem_strip mem visible, decide_eq_true letter⟩
  intro h
  rw [decimalOfText] at h
  split at h
  · rename_i n spelled
    exact other (numericSpelling_chars spelled _ kept)
  · split_ifs at h
    cases h

/-- An ASCII letter other than `e`. -/
theorem not_numericChar (u : UnicodeDigits) {c : Char} (ascii : c.toNat < 128)
    (letter : ¬ NumericChar asciiDigit c) : ¬ NumericChar u.digit c := by
  rintro (digit | mark)
  · rw [u.ascii c ascii] at digit
    exact letter (.inl digit)
  · exact letter (.inr mark)

/-- `Decimal` does not read bytes as a number. -/
theorem decimalOfText_bytes (u : UnicodeDigits) (data : Bytes) (negative : Bool) (coefficient : Nat)
    (exponent : Int) :
    decimalOfText u (bytesRepr data) ≠ some (.finite negative coefficient exponent) := by
  have letter : 'b' ∈ (bytesRepr data).toList := by
    rw [bytesRepr, String.toList_ofList]
    exact List.mem_cons_self
  exact decimalOfText_letter u letter (by decide) (by decide)
    (not_numericChar u (by decide) (by decide)) _ _ _

end Values

end DataMover
