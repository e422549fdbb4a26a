import DataMover.Engine.CastScan
import DataMover.FixedPoint

/-!
# Exact casts

The decimal type that `_decimal_dtype` finds for a column holds every number of it, and a batch that
`cast_batch_columns` accepts has the numbers it had before.  The type is made of two maxima, the digits
before the point and the digits after it, which different cells may reach.
-/

namespace DataMover

namespace Casting

/-! ## Numbers of cells -/

/-- The number that a finite decimal denotes, and the digits written after its point. -/
def parts : PyDecimal → Option (ℚ × Nat)
  | .finite negative coefficient exponent =>
    some (scaledValue negative coefficient exponent, (-exponent).toNat)
  | .nonFinite => none

/-- The number of a cell, a boolean being 0 or 1, and the digits written after its point. -/
def numberParts (u : UnicodeDigits) : Cell → Option (ℚ × Nat)
  | .null => none
  | .bool b => some (if b then 1 else 0, 0)
  | value => (decimalOfText u value.printed).bind parts

/-- The number of a cell that is a finite number. -/
def cellNumber (u : UnicodeDigits) (value : Cell) : Option ℚ := (numberParts u value).map Prod.fst

/-- The digits before the point. -/
def wholeDigits (number : ℚ) : Nat := (Nat.digits 10 ⌊|number|⌋₊).length

/-- The numbers of a column other than zero. -/
def nonzeroParts (u : UnicodeDigits) (values : List Cell) : List (ℚ × Nat) :=
  (values.filterMap (numberParts u)).filter fun parts => parts.1 ≠ 0

/-- The largest number of digits before the point. -/
def mostWhole (u : UnicodeDigits) (values : List Cell) : Nat :=
  ((nonzeroParts u values).map fun parts => wholeDigits parts.1).foldr max 0

/-- The largest number of digits after the point. -/
def mostFraction (u : UnicodeDigits) (values : List Cell) : Nat :=
  ((nonzeroParts u values).map Prod.snd).foldr max 0

/-- What the casts rely on: `Decimal(str(value))`, and that a cast makes one value of every value. -/
structure ReadsDecimals (u : UnicodeDigits) (lib : Library) : Prop where
  decimal : ∀ value, lib.decimal value = decimalOfText u value.printed
  lengths : ∀ type series values, lib.strictCast type series = some values →
    series.values.length = values.length

/-! ## Digits -/

/-- The digits before the point, from the coefficient and the exponent. -/
theorem wholeDigits_scaledValue (negative : Bool) {coefficient : Nat} (nonzero : coefficient ≠ 0)
    (exponent : Int) :
    wholeDigits (scaledValue negative coefficient exponent) = integerDigits coefficient exponent := by
  have power : (0 : ℚ) < 10 ^ exponent := zpow_pos (by norm_num) _
  have size : |scaledValue negative coefficient exponent| = coefficient * 10 ^ exponent := by
    rw [scaledValue, abs_mul, abs_mul, Nat.abs_cast, abs_of_pos power]
    split_ifs <;> norm_num
  have some_digit : 1 ≤ (Nat.digits 10 coefficient).length :=
    List.length_pos_iff.2 (Nat.digits_ne_nil_iff_ne_zero.2 nonzero)
  refine eq_of_forall_ge_iff fun k => ?_
  have shifted : (coefficient * 10 ^ exponent < (10 : ℚ) ^ k) ↔
      (coefficient : ℚ) < 10 ^ ((k : ℤ) - exponent) := by
    rw [zpow_sub₀ (by norm_num), zpow_natCast, lt_div_iff₀ power]
  rw [wholeDigits, size, Nat.digits_length_le_iff (by decide), Nat.floor_lt (by positivity),
    Nat.cast_pow, Nat.cast_ofNat, shifted, integerDigits]
  rcases le_or_gt exponent k with fits | large
  · obtain ⟨m, hm⟩ : ∃ m : ℕ, (k : ℤ) - exponent = m := ⟨(k - exponent).toNat, by omega⟩
    rw [hm, zpow_natCast]
    have bound : (coefficient : ℚ) < 10 ^ m ↔ (Nat.digits 10 coefficient).length ≤ m := by
      rw [Nat.digits_length_le_iff (by decide)]
      exact_mod_cast Iff.rfl
    rw [bound]
    omega
  · have small : (10 : ℚ) ^ ((k : ℤ) - exponent) ≤ 1 :=
      zpow_le_one_of_nonpos₀ (by norm_num) (by omega)
    have one : (1 : ℚ) ≤ coefficient := by exact_mod_cast Nat.one_le_iff_ne_zero.2 nonzero
    refine iff_of_false (not_lt.2 (small.trans one)) ?_
    omega

section Columns

variable {u : UnicodeDigits} {lib : Library} {values : List Cell} {value : Cell}

theorem parts_of_value {decimal : PyDecimal} {number : ℚ} (h : decimal.value = some number) :
    ∃ fraction, parts decimal = some (number, fraction) := by
  cases decimal with
  | nonFinite => cases h
  | finite negative coefficient exponent =>
    cases h
    exact ⟨_, rfl⟩

/-- `Decimal` has no number for the name of a boolean. -/
theorem decimalOfText_bool (b negative : Bool) (coefficient : Nat) (exponent : Int) :
    decimalOfText u (Cell.bool b).printed ≠ some (.finite negative coefficient exponent) := by
  have other (c : Char) (ascii : c.toNat < 128) (letter : ¬ NumericChar asciiDigit c) :
      ¬ NumericChar u.digit c := not_numericChar u ascii letter
  cases b with
  | true =>
    have letter : 'T' ∈ (Cell.bool true).printed.toList := by decide +kernel
    exact decimalOfText_letter u letter (by decide) (by decide) (other 'T' (by decide) (by decide))
      negative coefficient exponent
  | false =>
    have letter : 'F' ∈ (Cell.bool false).printed.toList := by decide +kernel
    exact decimalOfText_letter u letter (by decide) (by decide) (other 'F' (by decide) (by decide))
      negative coefficient exponent

theorem decimalOf_eq (other : ∀ b, value ≠ .bool b) : decimalOf lib value = lib.decimal value := by
  cases value with
  | bool b => exact absurd rfl (other b)
  | null | int _ | float _ | decimal _ | text _ | bytes _ | other _ _ => rfl

/-- What the loop finds for a cell. -/
theorem numberParts_of_filled (reads : ReadsDecimals u lib) (filled : value ≠ .null) :
    numberParts u value = (decimalOf lib value).bind parts := by
  unfold numberParts
  split
  · exact absurd rfl filled
  · rename_i b
    cases b <;> simp [decimalOf, parts, scaledValue]
  · rename_i other
    rw [decimalOf_eq other, reads.decimal]

/-- A cell after a cast is read without the case of a boolean, which is then no number. -/
theorem decimal_bind_parts (reads : ReadsDecimals u lib) (filled : value ≠ .null)
    {result : ℚ × Nat} (h : (lib.decimal value).bind parts = some result) :
    numberParts u value = some result := by
  rw [reads.decimal] at h
  cases value with
  | null => exact absurd rfl filled
  | bool b =>
    obtain ⟨number, read, h⟩ := Option.bind_eq_some_iff.1 h
    cases number with
    | nonFinite => cases h
    | finite negative coefficient exponent =>
      exact absurd read (decimalOfText_bool b negative coefficient exponent)
  | int _ | float _ | decimal _ | text _ | bytes _ | other _ _ => exact h

/-! ## The decimal type of a column -/

theorem decimalShape_of_not_finite {scale digits : Nat} {rest : List Cell} (filled : value ≠ .null)
    (h : (decimalOf lib value).bind parts = none) :
    decimalShape lib scale digits (value :: rest) = none := by
  cases read : decimalOf lib value with
  | none => cases value <;> simp_all [decimalShape]
  | some number =>
    cases number with
    | nonFinite => cases value <;> simp_all [decimalShape]
    | finite _ _ _ =>
      rw [read] at h
      cases h

theorem decimalShape_of_finite {scale digits : Nat} {rest : List Cell} (filled : value ≠ .null)
    {negative : Bool} {coefficient : Nat} {exponent : Int}
    (h : decimalOf lib value = some (.finite negative coefficient exponent)) :
    decimalShape lib scale digits (value :: rest) =
      if coefficient = 0 then decimalShape lib scale digits rest
      else decimalShape lib (max scale (-exponent).toNat)
        (max digits (integerDigits coefficient exponent)) rest := by
  cases value <;> simp_all [decimalShape]

/-- The loop of `_decimal_dtype` finds the two maxima. -/
theorem decimalShape_eq (reads : ReadsDecimals u lib) (scale digits : Nat) :
    decimalShape lib scale digits values =
      if ∀ value ∈ values, value ≠ .null → (cellNumber u value).isSome then
        some (max scale (mostFraction u values), max digits (mostWhole u values))
      else none := by
  induction values generalizing scale digits with
  | nil => simp [decimalShape, mostFraction, mostWhole, nonzeroParts]
  | cons value rest ih =>
    by_cases empty : value = .null
    · subst empty
      have same : nonzeroParts u (.null :: rest) = nonzeroParts u rest := rfl
      simp only [decimalShape, ih, mostFraction, mostWhole, same, List.forall_mem_cons, ne_eq,
        not_true, false_implies, true_and]
    have seen := numberParts_of_filled reads empty
    cases found : (decimalOf lib value).bind parts with
    | none =>
      rw [decimalShape_of_not_finite empty found, if_neg]
      intro all
      have := all value List.mem_cons_self empty
      rw [cellNumber, seen, found] at this
      cases this
    | some result =>
      rw [found] at seen
      have finite : (∀ value' ∈ value :: rest, value' ≠ .null → (cellNumber u value').isSome) ↔
          ∀ value' ∈ rest, value' ≠ .null → (cellNumber u value').isSome := by
        simp [cellNumber, seen]
      obtain ⟨number, read, denotes⟩ := Option.bind_eq_some_iff.1 found
      cases number with
      | nonFinite => cases denotes
      | finite negative coefficient exponent =>
        cases denotes
        rw [decimalShape_of_finite empty read]
        simp only [finite]
        by_cases zero : coefficient = 0
        · have same : nonzeroParts u (value :: rest) = nonzeroParts u rest := by
            simp [nonzeroParts, seen, scaledValue, zero]
          rw [if_pos zero, ih]
          simp only [mostFraction, mostWhole, same]
        · have positive : scaledValue negative coefficient exponent ≠ 0 := by
            have power : (10 : ℚ) ^ exponent ≠ 0 := zpow_ne_zero _ (by norm_num)
            simp only [scaledValue, ne_eq, mul_eq_zero, Nat.cast_eq_zero, zero, power, or_false]
            split_ifs <;> norm_num
          have more : nonzeroParts u (value :: rest) =
              (scaledValue negative coefficient exponent, (-exponent).toNat) ::
                nonzeroParts u rest := by
            simp [nonzeroParts, seen, positive]
          rw [if_neg zero, ih]
          simp only [mostFraction, mostWhole, more, List.map_cons, List.foldr_cons,
            wholeDigits_scaledValue negative zero exponent, max_assoc]

theorem le_most {digits : List Nat} {n : Nat} (h : n ∈ digits) : n ≤ digits.foldr max 0 := by
  induction digits with
  | nil => cases h
  | cons m rest ih =>
    rw [List.foldr_cons]
    rcases List.mem_cons.1 h with rfl | h
    · exact le_max_left _ _
    · exact (ih h).trans (le_max_right _ _)

/-- The type made of the two maxima holds every number of the column. -/
theorem cellNumber_mem_values (reads : ReadsDecimals u lib) (mem : value ∈ values)
    (filled : value ≠ .null) {number : ℚ} (h : cellNumber u value = some number) :
    number ∈ FixedPoint.values 10 (max 1 (mostWhole u values + mostFraction u values))
      (mostFraction u values) := by
  obtain ⟨⟨number', fraction⟩, seen, same⟩ := Option.map_eq_some_iff.1 h
  obtain rfl : number' = number := same
  by_cases zero : number' = 0
  · subst zero
    exact FixedPoint.zero_mem (by decide)
  have counted : (number', fraction) ∈ nonzeroParts u values :=
    List.mem_filter.2 ⟨List.mem_filterMap.2 ⟨value, mem, seen⟩, decide_eq_true zero⟩
  have whole : wholeDigits number' ≤ mostWhole u values := by
    apply le_most
    exact List.mem_map.2 ⟨_, counted, rfl⟩
  have scale : fraction ≤ mostFraction u values := by
    apply le_most
    exact List.mem_map.2 ⟨_, counted, rfl⟩
  rw [numberParts_of_filled reads filled] at seen
  obtain ⟨decimal, -, denotes⟩ := Option.bind_eq_some_iff.1 seen
  cases decimal with
  | nonFinite => cases denotes
  | finite negative coefficient exponent =>
    cases denotes
    have nonzero : coefficient ≠ 0 := by
      rintro rfl
      exact zero (by simp [scaledValue])
    rw [wholeDigits_scaledValue negative nonzero, integerDigits] at whole
    have some_digit : 1 ≤ (Nat.digits 10 coefficient).length :=
      List.length_pos_iff.2 (Nat.digits_ne_nil_iff_ne_zero.2 nonzero)
    have digits : (digitCount coefficient + exponent).toNat ≤ mostWhole u values := by
      rw [digitCount, max_eq_right some_digit, add_comm]
      exact whole
    obtain ⟨k, small, same⟩ := scaledValue_eq negative digits scale
    apply FixedPoint.values_subset (p := mostWhole u values + mostFraction u values)
      (s := mostFraction u values) (by decide) le_rfl (by omega)
    refine ⟨k, by exact_mod_cast small, ?_⟩
    rw [same, zpow_neg, zpow_natCast, div_eq_mul_inv, Nat.cast_ofNat]

/-- `_decimal_dtype` by the two maxima. -/
theorem decimalDtype_eq (reads : ReadsDecimals u lib) (series : Series) :
    (∃ e, decimalDtype lib series = .error e) ∧
        ((∃ value ∈ series.values, value ≠ .null ∧ cellNumber u value = none) ∨
          38 < mostWhole u series.values + mostFraction u series.values) ∨
      decimalDtype lib series = .ok (.decimal
          (max 1 (mostWhole u series.values + mostFraction u series.values))
          (mostFraction u series.values)) ∧
        (∀ value ∈ series.values, value ≠ .null → (cellNumber u value).isSome) ∧
          mostWhole u series.values + mostFraction u series.values ≤ 38 := by
  unfold decimalDtype
  rw [decimalShape_eq reads]
  by_cases finite : ∀ value ∈ series.values, value ≠ .null → (cellNumber u value).isSome
  · rw [if_pos finite]
    dsimp only
    rw [Nat.zero_max, Nat.zero_max]
    split_ifs with wide
    · exact .inl ⟨⟨_, rfl⟩, .inr (by omega)⟩
    · exact .inr ⟨rfl, finite, by omega⟩
  · rw [if_neg finite]
    refine .inl ⟨⟨_, rfl⟩, .inl ?_⟩
    push Not at finite
    obtain ⟨value, mem, filled, none_⟩ := finite
    exact ⟨value, mem, filled, by simpa using none_⟩

/-! ## Batches -/

/-- The loop over the cells of a column lets only a pair of nulls or of equal numbers pass. -/
theorem cells_of_sameNumericValue (reads : ReadsDecimals u lib) {before after : Cell}
    (same : sameNumericValue lib before after = true) :
    (before = .null ↔ after = .null) ∧ (before ≠ .null → ∃ number,
      cellNumber u before = some number ∧ cellNumber u after = some number) := by
  by_cases empty : before = .null
  · subst empty
    rw [sameNumericValue, decide_eq_true_eq] at same
    exact ⟨iff_of_true rfl same, fun filled => absurd rfl filled⟩
  obtain ⟨filled, x, y, hx, hy, equal⟩ := Ssn.numbers_of_sameNumericValue empty same
  obtain ⟨number, xNumber, yNumber⟩ := Ssn.value_of_sameNumber equal
  obtain ⟨i, xParts⟩ := parts_of_value xNumber
  obtain ⟨j, yParts⟩ := parts_of_value yNumber
  refine ⟨iff_of_false empty filled, fun _ => ⟨number, ?_, ?_⟩⟩
  · rw [cellNumber, numberParts_of_filled reads empty, hx, Option.bind_some, xParts]
    rfl
  · rw [cellNumber, decimal_bind_parts reads filled (by rw [hy, Option.bind_some, yParts])]
    rfl

end Columns

/-! ## Exactness -/

/-- The decimal types hold the numbers of their columns, and the casts of a batch keep them. -/
structure Exact (u : UnicodeDigits) (lib : Library) : Prop where
  fits : ∀ series type, decimalDtype lib series = .ok type → ∃ precision scale,
    type = .decimal precision scale ∧ 1 ≤ precision ∧ precision ≤ 38 ∧ scale ≤ precision ∧
      ∀ value ∈ series.values, value ≠ .null →
        ∃ number ∈ FixedPoint.values 10 precision scale, cellNumber u value = some number
  raises : ∀ series, (∃ e, decimalDtype lib series = .error e) ↔
    (∃ value ∈ series.values, value ≠ .null ∧ cellNumber u value = none) ∨
      38 < mostWhole u series.values + mostFraction u series.values
  keeps : ∀ batch batch' overrides, (overrides.map Prod.fst).Nodup →
    castBatchColumns lib batch overrides = .ok batch' →
    ∀ name, ∀ selected ∈ exactTypes, (name, selected) ∈ overrides →
      ∃ s s', batch.frame.column? name = some s ∧ batch'.frame.column? name = some s' ∧
        List.Forall₂ (fun before after => (before = .null ↔ after = .null) ∧
          (before ≠ .null → ∃ number, cellNumber u before = some number ∧
            cellNumber u after = some number)) s.values s'.values

theorem casts_are_exact {u : UnicodeDigits} {lib : Library} (reads : ReadsDecimals u lib) :
    Exact u lib where
  fits series type h := by
    rcases decimalDtype_eq reads series with ⟨⟨e, raised⟩, -⟩ | ⟨found, finite, narrow⟩
    · rw [raised] at h
      cases h
    · rw [found] at h
      cases h
      refine ⟨_, _, rfl, le_max_left _ _, by omega, by omega, fun value mem filled => ?_⟩
      obtain ⟨number, isNumber⟩ := Option.isSome_iff_exists.1 (finite value mem filled)
      exact ⟨number, cellNumber_mem_values reads mem filled isNumber, isNumber⟩
  raises series := by
    rcases decimalDtype_eq reads series with ⟨raised, reason⟩ | ⟨found, finite, narrow⟩
    · exact iff_of_true raised reason
    · refine iff_of_false ?_ ?_
      · rintro ⟨e, raised⟩
        rw [found] at raised
        cases raised
      · rintro (⟨value, mem, filled, none_⟩ | wide)
        · have isNumber := finite value mem filled
          rw [none_] at isNumber
          cases isNumber
        · exact absurd wide (not_lt.2 narrow)
  keeps batch batch' overrides nodup h name selected exact mem := by
    obtain ⟨s, s', type, hs, hs', -, cast, same⟩ := Ssn.castBatchColumns_number nodup h mem exact
    refine ⟨s, s', hs, hs', List.forall₂_iff_zip.2 ⟨reads.lengths _ _ _ cast, ?_⟩⟩
    intro before after pair
    exact cells_of_sameNumericValue reads (same _ pair)

/-- A column of numbers in text, which becomes one of whole numbers. -/
theorem casts_are_exact_of_numbers :
    (∃ e, decimalDtype Ssn.castingLibrary ⟨"n", "String", [.text "1e38", .text "0.1"]⟩ = .error e) ∧
      ∃ s s', Ssn.numbersBatch.frame.column? "ssn" = some s ∧
        Ssn.castBatch.frame.column? "ssn" = some s' ∧
          List.Forall₂ (fun before after => (before = .null ↔ after = .null) ∧
            (before ≠ .null → ∃ number, cellNumber Ssn.asciiDigits before = some number ∧
              cellNumber Ssn.asciiDigits after = some number)) s.values s'.values := by
  have reads : ReadsDecimals Ssn.asciiDigits Ssn.castingLibrary :=
    ⟨Ssn.castingLibrary_casts.decimal, fun type series values h =>
      (Ssn.castingLibrary_casts.nulls type series values h).length_eq⟩
  refine ⟨((casts_are_exact reads).raises _).2 (.inr (by decide +kernel)), ?_⟩
  exact (casts_are_exact reads).keeps Ssn.numbersBatch Ssn.castBatch [("ssn", .bigint)] (by decide)
    Ssn.castBatchColumns_numbersBatch "ssn" .bigint (by decide) (by decide)

end Casting

end DataMover
