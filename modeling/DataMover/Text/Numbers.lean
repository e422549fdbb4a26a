import DataMover.Engine.Frame

/-!
# Numbers in text

The numeric spellings that the regular expressions of `csv_inference.py` accept, over any kind of
digits, and the `decimal.Decimal` that such a text denotes.  A numeral is an optional sign, digits with
at most one point among them, and an optional exponent.
-/

namespace DataMover

/-- What a kind of digit (`[0-9]`, or `\d`) makes of a character. -/
abbrev DigitKind := Char → Option Nat

/-- `[0-9]`. -/
def asciiDigit : DigitKind := fun c => if c.isDigit then some (c.toNat - '0'.toNat) else none

/-- A number as it is written. -/
structure Numeral where
  negative : Bool
  whole : List Nat
  fraction : List Nat
  exponent : Int
  deriving DecidableEq

/-! ## Spellings -/

section Spellings

variable (digit : DigitKind)

/-- `[+-]?`. -/
def optionalSign : List Char → Bool × List Char
  | [] => (false, [])
  | c :: cs => if c = '-' then (true, cs) else if c = '+' then (false, cs) else (false, c :: cs)

/-- `\d*`. -/
def digitRun : List Char → List Nat × List Char
  | [] => ([], [])
  | c :: cs =>
    match digit c with
    | some d => (d :: (digitRun cs).1, (digitRun cs).2)
    | none => ([], c :: cs)

/-- The number that digits spell. -/
def numeralValue (digits : List Nat) : Nat := Nat.ofDigits 10 digits.reverse

/-- `[eE][+-]?\d+`, at the end of a text. -/
def exponentPart : List Char → Option Int
  | [] => none
  | c :: cs =>
    if c = 'e' ∨ c = 'E' then
      let (negative, cs) := optionalSign cs
      match digitRun digit cs with
      | (d :: digits, []) =>
        some (if negative then -numeralValue (d :: digits) else numeralValue (d :: digits))
      | _ => none
    else none

/-- `^[+-]?\d+$`. -/
def integerSpelling (cs : List Char) : Option Numeral :=
  let (negative, cs) := optionalSign cs
  match digitRun digit cs with
  | (d :: digits, []) => some ⟨negative, d :: digits, [], 0⟩
  | _ => none

/-- `^[+-]?(?:(?:\d+\.\d*|\d*\.\d+)(?:[eE][+-]?\d+)?|\d+[eE][+-]?\d+)$`. -/
def decimalSpelling (cs : List Char) : Option Numeral :=
  let (negative, cs) := optionalSign cs
  let (whole, cs) := digitRun digit cs
  match cs with
  | [] => none
  | c :: rest =>
    if c = '.' then
      let (fraction, rest) := digitRun digit rest
      if whole = [] ∧ fraction = [] then none
      else if rest = [] then some ⟨negative, whole, fraction, 0⟩
      else (exponentPart digit rest).map fun exponent => ⟨negative, whole, fraction, exponent⟩
    else if whole = [] then none
    else (exponentPart digit (c :: rest)).map fun exponent => ⟨negative, whole, [], exponent⟩

/-- A numeric text. -/
def numericSpelling (cs : List Char) : Option Numeral :=
  (integerSpelling digit cs).or (decimalSpelling digit cs)

end Spellings

/-! ## Decimals -/

namespace Numeral

/-- The digits as one number. -/
def coefficient (n : Numeral) : Nat := numeralValue (n.whole ++ n.fraction)

/-- The power of ten that the last digit counts. -/
def scaleExponent (n : Numeral) : Int := n.exponent - n.fraction.length

/-- `int(text)` of an integer. -/
def toInt (n : Numeral) : Int := if n.negative then -numeralValue n.whole else numeralValue n.whole

end Numeral

/-- `decimal.MAX_EMAX`. -/
def maxEmax : Int := 999999999999999999

/-- `decimal.MIN_ETINY`. -/
def minEtiny : Int := -1999999999999999997

/-- `len(number.as_tuple().digits)`. -/
def digitCount (coefficient : Nat) : Nat := max 1 (Nat.digits 10 coefficient).length

/-- `Decimal(text)` of a numeric text; `none` is `InvalidOperation`, which an exponent out of range
raises, also for a zero. -/
def Numeral.decimal (n : Numeral) : Option PyDecimal :=
  if n.scaleExponent + digitCount n.coefficient - 1 > maxEmax ∨ n.scaleExponent < minEtiny then none
  else some (.finite n.negative n.coefficient n.scaleExponent)

/-- The rational number `(-1)^negative * coefficient * 10^exponent`. -/
def scaledValue (negative : Bool) (coefficient : Nat) (exponent : Int) : ℚ :=
  (if negative then -1 else 1) * coefficient * 10 ^ exponent

/-- The number that a finite decimal denotes. -/
def PyDecimal.value : PyDecimal → Option ℚ
  | finite negative coefficient exponent => some (scaledValue negative coefficient exponent)
  | nonFinite => none

/-- The number that a numeral denotes. -/
def Numeral.value (n : Numeral) : ℚ := scaledValue n.negative n.coefficient n.scaleExponent

/-! ## What the spellings denote -/

/-- `Decimal` is exact. -/
theorem Numeral.value_decimal {n : Numeral} {d : PyDecimal} (h : n.decimal = some d) :
    d.value = some n.value := by
  unfold Numeral.decimal at h
  split_ifs at h with outside
  cases h
  rfl

/-- A number has no more digits than `as_tuple` lists. -/
theorem lt_pow_digitCount (coefficient : Nat) : coefficient < 10 ^ digitCount coefficient := by
  have bound : coefficient < 10 ^ (Nat.digits 10 coefficient).length :=
    Nat.lt_base_pow_length_digits (by decide)
  exact bound.trans_le (Nat.pow_le_pow_right (by decide) (Nat.le_max_right _ _))

/-- An integer of a number of digits, scaled. -/
theorem scaledValue_eq (negative : Bool) {coefficient : Nat} {exponent : Int} {digits scale : Nat}
    (hd : (digitCount coefficient + exponent).toNat ≤ digits) (hs : (-exponent).toNat ≤ scale) :
    ∃ k : ℤ, |k| < 10 ^ (digits + scale) ∧
      scaledValue negative coefficient exponent = k * (10 : ℚ) ^ (-(scale : ℤ)) := by
  have lift : ((exponent + scale).toNat : ℤ) = exponent + scale := Int.toNat_of_nonneg (by omega)
  have digitsLe : digitCount coefficient + (exponent + scale).toNat ≤ digits + scale := by omega
  have bound : coefficient * 10 ^ (exponent + scale).toNat < 10 ^ (digits + scale) := calc
    coefficient * 10 ^ (exponent + scale).toNat
      < 10 ^ digitCount coefficient * 10 ^ (exponent + scale).toNat :=
        Nat.mul_lt_mul_of_pos_right (lt_pow_digitCount coefficient) (by positivity)
    _ = 10 ^ (digitCount coefficient + (exponent + scale).toNat) := (pow_add _ _ _).symm
    _ ≤ 10 ^ (digits + scale) := Nat.pow_le_pow_right (by decide) digitsLe
  have power : (10 : ℚ) ^ exponent =
      ((10 ^ (exponent + scale).toNat : ℕ) : ℚ) * 10 ^ (-(scale : ℤ)) := by
    rw [Nat.cast_pow, Nat.cast_ofNat, ← zpow_natCast, lift, ← zpow_add₀ (by norm_num)]
    congr 1
    omega
  refine ⟨(if negative then -1 else 1) * (coefficient * 10 ^ (exponent + scale).toNat : ℕ), ?_, ?_⟩
  · rw [abs_mul, Nat.abs_cast]
    have unit : |(if negative = true then -1 else 1 : ℤ)| = 1 := by split_ifs <;> rfl
    rw [unit, one_mul]
    exact_mod_cast bound
  · unfold scaledValue
    rw [power]
    push_cast
    split_ifs <;> ring

/-- An integer text denotes what `int` makes of it. -/
theorem integerSpelling_value {digit : DigitKind} {cs : List Char} {n : Numeral}
    (h : integerSpelling digit cs = some n) : n.value = (n.toInt : ℚ) := by
  unfold integerSpelling at h
  dsimp only at h
  split at h
  · cases h
    unfold Numeral.value Numeral.toInt scaledValue Numeral.coefficient Numeral.scaleExponent
    rw [List.append_nil, List.length_nil]
    split_ifs <;> simp
  · cases h

end DataMover
