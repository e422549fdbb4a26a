import DataMover.Engine.Casting
import DataMover.Engine.SocialSecurity

/-!
# The scan and the casts

The scan for social security numbers reads the cells of a source, and the casts of a route change them
before they are written.  A cast to a number type that loses no precision keeps the number of every
cell, and a cell is scanned by its number, so the scan finds the same cells before and after.
-/

namespace DataMover

namespace Ssn

/-! ## Casts -/

/-- A type of whole numbers, or a decimal type. -/
def NumberType : CastType → Prop
  | .plain type => type ∈ [ColumnType.smallint, .integer, .bigint]
  | .decimal _ _ => True

/-- A text with an underscore, which `Decimal` ignores. -/
def Underscored : Cell → Prop
  | .text s | .other _ s => '_' ∈ s.toList
  | _ => False

/-- What the scan relies on in the casts of Polars: nulls stay nulls, a number type makes numbers, and
it refuses a text with an underscore. -/
structure CastsNumbers (u : UnicodeDigits) (lib : Library) : Prop where
  decimal : ∀ value, lib.decimal value = decimalOfText u value.printed
  nulls : ∀ type series values, lib.strictCast type series = some values →
    SameNulls series.values values
  numbers : ∀ type, NumberType type → ∀ series values, lib.strictCast type series = some values →
    ∀ v ∈ values, v = .null ∨ isNumber v = true
  plain : ∀ type, NumberType type → ∀ series values, lib.strictCast type series = some values →
    ∀ v ∈ series.values, ¬ Underscored v

section Casts

variable {u : UnicodeDigits} {lib : Library} {frame : Frame}

/-- A decimal with its last digit further right. -/
theorem scaledValue_shift (negative : Bool) (coefficient : Nat) {exponent low : Int}
    (h : low ≤ exponent) : scaledValue negative coefficient exponent =
      ((if negative then -((coefficient * 10 ^ (exponent - low).toNat : ℕ) : ℤ)
        else ((coefficient * 10 ^ (exponent - low).toNat : ℕ) : ℤ) : ℤ) : ℚ) * 10 ^ low := by
  have lift : ((exponent - low).toNat : ℤ) = exponent - low := Int.toNat_of_nonneg (by omega)
  have power : (10 : ℚ) ^ exponent = 10 ^ (exponent - low).toNat * 10 ^ low := by
    rw [← zpow_natCast, lift, ← zpow_add₀ (by norm_num), Int.sub_add_cancel]
  rw [scaledValue, power]
  split_ifs <;> push_cast <;> ring

/-- Equal decimals have one value. -/
theorem value_of_sameNumber {x y : PyDecimal} (h : Casting.sameNumber x y = true) :
    ∃ number, x.value = some number ∧ y.value = some number := by
  cases x with
  | nonFinite => cases h
  | finite n c e =>
    cases y with
    | nonFinite => cases h
    | finite n' c' e' =>
      have same := of_decide_eq_true h
      refine ⟨scaledValue n c e, rfl, congrArg some ?_⟩
      rw [scaledValue_shift n' c' (min_le_right e e'), scaledValue_shift n c (min_le_left e e')]
      dsimp only at same
      rw [same]

/-- A cell with the same number after a cast has a number before and after it. -/
theorem numbers_of_sameNumericValue {before after : Cell} (filled : before ≠ .null)
    (same : Casting.sameNumericValue lib before after = true) :
    after ≠ .null ∧ ∃ x y, Casting.decimalOf lib before = some x ∧ lib.decimal after = some y ∧
      Casting.sameNumber x y = true := by
  refine ⟨?_, ?_⟩
  · rintro rfl
    cases before <;> first | exact filled rfl | cases same
  · unfold Casting.sameNumericValue at same
    split at same
    · exact absurd rfl filled
    · cases same
    · split at same
      · exact ⟨_, _, ‹_›, ‹_›, same⟩
      · cases same

/-- A number is looked at as its value before and after a cast that keeps the value. -/
theorem contains_of_sameNumericValue (casts : CastsNumbers u lib) {before after : Cell}
    (plain : ¬ Underscored before) (number : after = .null ∨ isNumber after = true)
    (same : Casting.sameNumericValue lib before after = true) :
    containsSupportedSsn u before = containsSupportedSsn u after := by
  by_cases empty : before = .null
  · subst empty
    rw [of_decide_eq_true same]
  obtain ⟨filled, x, y, hx, hy, equal⟩ := numbers_of_sameNumericValue empty same
  have isNumber_after := number.resolve_left filled
  have noBool : ∀ b, after ≠ .bool b := by
    rintro b rfl
    cases isNumber_after
  obtain ⟨v, hxv, hyv⟩ := value_of_sameNumber equal
  have looked : containsSupportedSsn u after = numberDetected u.digit v := by
    refine contains_of_decimal after filled noBool (.inl isNumber_after) ?_
    rw [← casts.decimal, hy]
    exact hyv
  rw [looked]
  by_cases boolean : ∃ b, before = .bool b
  · obtain ⟨b, rfl⟩ := boolean
    cases hx
    cases hxv
    refine (Bool.eq_false_iff.2 fun detected => ?_).symm
    obtain ⟨n, -, value, valid⟩ := numberDetected_iff.1 detected
    have few : n = 0 ∨ n = 1 := by
      cases b
      · refine .inl ?_
        simpa [scaledValue] using value.symm
      · refine .inr ?_
        simpa [scaledValue, eq_comm] using value
    rcases few with rfl | rfl
    · exact absurd valid (by decide)
    · exact absurd valid (by decide)
  · have read : decimalOfText u before.printed = some x := by
      rw [← casts.decimal, ← hx]
      cases before <;> first | rfl | exact absurd ⟨_, rfl⟩ boolean
    refine contains_of_decimal before empty (fun b e => boolean ⟨b, e⟩) ?_ (by rw [read]; exact hxv)
    cases x with
    | nonFinite => cases hxv
    | finite negative coefficient exponent =>
      cases before with
      | null => exact absurd rfl empty
      | bool b => exact absurd ⟨b, rfl⟩ boolean
      | int _ | float _ | decimal _ => exact .inl rfl
      | text s => exact .inr (numericSpelling_of_finite read plain)
      | bytes data => exact absurd read (decimalOfText_bytes u data _ _ _)
      | other _ s => exact .inr (numericSpelling_of_finite read plain)

/-- Each cast column is the cast of a column to a target. -/
theorem castAll_mem {targets : List (String × CastType)} {series : List Series}
    (h : Casting.castAll lib frame targets = .ok series) :
    series.map Series.name = targets.map Prod.fst ∧ ∀ t ∈ series, ∃ type, (t.name, type) ∈ targets ∧
      ∃ s, frame.column? t.name = some s ∧ lib.strictCast type s = some t.values := by
  induction targets generalizing series with
  | nil =>
    cases h
    exact ⟨rfl, nofun⟩
  | cons target rest ih =>
    obtain ⟨column, type⟩ := target
    obtain ⟨t, ht, h⟩ := bind_eq_ok.1 h
    obtain ⟨others, ho, h⟩ := bind_eq_ok.1 h
    cases h
    obtain ⟨names, each⟩ := ih ho
    unfold Casting.castSeries at ht
    split at ht
    · cases ht
    · rename_i s hs
      split at ht
      · cases ht
      · rename_i values hv
        cases ht
        refine ⟨congrArg (column :: ·) names, fun t ht => ?_⟩
        rcases List.mem_cons.1 ht with rfl | ht
        · exact ⟨type, List.mem_cons_self, s, hs, hv⟩
        · obtain ⟨type', mem, cast⟩ := each t ht
          exact ⟨type', List.mem_cons_of_mem _ mem, cast⟩

/-- Each target is the type of an override. -/
theorem castTargets_mem {overrides : List (String × ColumnType)}
    {targets : List (String × CastType)} (h : Casting.castTargets lib frame overrides = .ok targets) :
    targets.map Prod.fst = overrides.map Prod.fst ∧ ∀ target ∈ targets, ∃ selected,
      (target.1, selected) ∈ overrides ∧
        Casting.castTarget lib frame target.1 selected = .ok target.2 := by
  induction overrides generalizing targets with
  | nil =>
    cases h
    exact ⟨rfl, nofun⟩
  | cons e rest ih =>
    obtain ⟨column, selected⟩ := e
    obtain ⟨type, ht, h⟩ := bind_eq_ok.1 h
    obtain ⟨others, ho, h⟩ := bind_eq_ok.1 h
    cases h
    obtain ⟨names, each⟩ := ih ho
    refine ⟨congrArg (column :: ·) names, fun target mem => ?_⟩
    rcases List.mem_cons.1 mem with rfl | mem
    · exact ⟨selected, List.mem_cons_self, ht⟩
    · obtain ⟨selected', mem', same⟩ := each target mem
      exact ⟨selected', List.mem_cons_of_mem _ mem', same⟩

/-- The cast of a column to an exact type is one to a number type. -/
theorem castTarget_number {name : String} {selected : ColumnType} {type : CastType}
    (exact : selected ∈ Casting.exactTypes)
    (h : Casting.castTarget lib frame name selected = .ok type) : NumberType type := by
  unfold Casting.castTarget at h
  split at h
  · split at h
    · cases h
    · rename_i series _
      unfold Casting.decimalDtype at h
      split at h
      · rename_i decimal
        cases h
        split at decimal
        · cases decimal
        · dsimp only at decimal
          split_ifs at decimal
          cases decimal
          trivial
      · cases h
  · rename_i other
    cases h
    simp only [Casting.exactTypes, List.mem_cons, List.not_mem_nil, or_false] at exact
    rcases exact with rfl | rfl | rfl | rfl
    · simp [NumberType]
    · simp [NumberType]
    · simp [NumberType]
    · exact absurd rfl other

/-- What an accepted batch says about a column that is cast to a number type. -/
theorem castBatchColumns_number {batch batch' : TransferBatch}
    {overrides : List (String × ColumnType)} (nodup : (overrides.map Prod.fst).Nodup)
    (h : castBatchColumns lib batch overrides = .ok batch') {name : String} {selected : ColumnType}
    (mem : (name, selected) ∈ overrides) (exact : selected ∈ Casting.exactTypes) :
    ∃ s s' type, batch.frame.column? name = some s ∧ batch'.frame.column? name = some s' ∧
      NumberType type ∧ lib.strictCast type s = some s'.values ∧
      ∀ e ∈ s.values.zip s'.values, Casting.sameNumericValue lib e.1 e.2 = true := by
  unfold castBatchColumns at h
  split_ifs at h with empty
  · rw [List.isEmpty_iff.1 empty] at mem
    cases mem
  split at h
  · cases h
  · cases h
  rename_i series hall
  obtain ⟨targets, ht, hall⟩ := bind_eq_ok.1 hall
  obtain ⟨targetNames, eachTarget⟩ := castTargets_mem ht
  obtain ⟨names, each⟩ := castAll_mem hall
  split at h
  · cases h
  rename_i frame hw
  split at h
  · cases h
  rename_i kept
  cases h
  have present : ∀ t ∈ series, t.name ∈ batch.frame.names := by
    intro t ht
    obtain ⟨-, -, s, hs, -⟩ := each t ht
    obtain ⟨hmem, hn⟩ := Frame.column?_eq_some_iff.1 hs
    exact hn ▸ Frame.mem_names hmem
  -- the cast column of this name is there, and only this override casts it
  have casted : name ∈ series.map Series.name := by
    rw [names, targetNames]
    exact List.mem_map_of_mem mem
  obtain ⟨t, ht, rfl⟩ := List.mem_map.1 casted
  obtain ⟨t', found⟩ : ∃ t', series.find? (fun r => r.name = t.name) = some t' := by
    rw [← Option.isSome_iff_exists, List.find?_isSome]
    exact ⟨t, ht, by simp⟩
  have name' : t'.name = t.name := by simpa using List.find?_some found
  obtain ⟨type, target, s, hs, cast⟩ := each t' (List.mem_of_find?_eq_some found)
  obtain ⟨selected', mem', typed⟩ := eachTarget _ target
  rw [name'] at hs mem'
  obtain rfl : selected' = selected := by
    have := List.inj_on_of_nodup_map nodup mem' mem rfl
    simpa using this
  have after : frame.column? t.name = some t' := by
    rw [Frame.withColumns_column? present hw, hs, Option.map_some, found, Option.getD_some]
  refine ⟨s, t', type, hs, after, castTarget_number exact typed, cast, ?_⟩
  have exactly := List.find?_eq_none.1 kept _ mem
  simpa [Casting.losesPrecision, hs, after, exact] using exactly

/-- An accepted cast to a number type keeps what is detected. -/
theorem castBatchColumns_contains (casts : CastsNumbers u lib) {batch batch' : TransferBatch}
    {overrides : List (String × ColumnType)} (nodup : (overrides.map Prod.fst).Nodup)
    (h : castBatchColumns lib batch overrides = .ok batch') {name : String} {selected : ColumnType}
    (mem : (name, selected) ∈ overrides) (exact : selected ∈ Casting.exactTypes) :
    ∃ s s', batch.frame.column? name = some s ∧ batch'.frame.column? name = some s' ∧
      List.Forall₂ (fun before after =>
        containsSupportedSsn u before = containsSupportedSsn u after) s.values s'.values := by
  obtain ⟨s, s', type, hs, hs', number, cast, same⟩ := castBatchColumns_number nodup h mem exact
  refine ⟨s, s', hs, hs', List.forall₂_iff_zip.2 ⟨(casts.nulls _ _ _ cast).length_eq, ?_⟩⟩
  intro before after pair
  obtain ⟨left, right⟩ := List.of_mem_zip pair
  exact contains_of_sameNumericValue casts (casts.plain type number s _ cast _ left)
    (casts.numbers type number s _ cast _ right) (same _ pair)

end Casts

/-! ## Detection by value -/

/-- What the scan detects depends on the numbers of the cells, not on how they are represented. -/
structure ScansByValue (u : UnicodeDigits) (lib : Library) : Prop where
  sameNumber : ∀ value value' number, numericValue u value = some number →
    numericValue u value' = some number → Addressable value → Addressable value' →
      containsSupportedSsn u value = containsSupportedSsn u value'
  nineDigits : ∀ value, ∀ n : Nat, n ≤ 999999999 → numericValue u value = some n →
    Addressable value → (containsSupportedSsn u value = true ↔ ValidNumber n)
  otherNumbers : ∀ value number, numericValue u value = some number → Addressable value →
    (∀ n : Nat, n ≤ 999999999 → number ≠ n) → containsSupportedSsn u value = false
  forms : ∀ n ≤ 999999999, ∀ s t, Written.IsSeparator s → Written.IsSeparator t →
    containsSupportedSsn u (.text (String.ofList (written n s t).chars)) =
      containsSupportedSsn u (.int n)
  embedded : ∀ n ≤ 999999999, ∀ s t, Written.IsSeparator s → Written.IsSeparator t →
    containsSupportedSsn u (.text (String.ofList (written n s t).chars)) = true →
    ∀ front rest, Clear u.digit front rest → numericSpelling u.digit
      (strip (String.ofList (front ++ (written n s t).chars ++ rest))).toList = none →
        containsSupportedSsn u (.text (String.ofList (front ++ (written n s t).chars ++ rest))) = true
  casts : ∀ batch batch' overrides, (overrides.map Prod.fst).Nodup →
    castBatchColumns lib batch overrides = .ok batch' →
    ∀ name, ∀ selected ∈ Casting.exactTypes, (name, selected) ∈ overrides →
      ∃ s s', batch.frame.column? name = some s ∧ batch'.frame.column? name = some s' ∧
        List.Forall₂ (fun before after =>
          containsSupportedSsn u before = containsSupportedSsn u after) s.values s'.values

theorem ssn_detection_depends_on_the_number {u : UnicodeDigits} {lib : Library}
    (casts : CastsNumbers u lib) : ScansByValue u lib where
  sameNumber value value' number h h' addressable addressable' := by
    rw [contains_of_numericValue h addressable, contains_of_numericValue h' addressable']
  nineDigits value n small h addressable := by
    rw [contains_of_numericValue h addressable]
    exact numberDetected_nat small
  otherNumbers value number h addressable other := by
    rw [contains_of_numericValue h addressable, ← Bool.not_eq_true, numberDetected_iff]
    rintro ⟨n, small, same, -⟩
    exact other n small same
  forms n small s t hs ht := by
    have number : containsSupportedSsn u (.int n) = numberDetected u.digit n :=
      contains_of_numericValue rfl trivial
    rw [number, Bool.eq_iff_iff, contains_written small hs ht, numberDetected_nat small]
  embedded n small s t hs ht detected front rest clear plain :=
    contains_embedded small hs ht clear ((contains_written small hs ht).1 detected) plain
  casts batch batch' overrides nodup h name selected exact mem :=
    castBatchColumns_contains casts nodup h mem exact

/-! ## A column of numbers in text -/

theorem asciiDigit_lt_ten (c : Char) (d : Nat) (h : asciiDigit c = some d) : d < 10 := by
  rw [asciiDigit] at h
  split_ifs at h with digit
  cases h
  have high : c.toNat ≤ 57 :=
    UInt32.le_iff_toNat_le.1 (by simpa [Char.isDigit] using digit : 48 ≤ c.val ∧ c.val ≤ 57).2
  have zero : '0'.toNat = 48 := rfl
  omega

theorem isSpace_of_asciiDigit (c : Char) (h : (asciiDigit c).isSome) : isSpace c = false := by
  rw [asciiDigit] at h
  split_ifs at h with digit
  · exact isSpace_of_isDigit digit
  · cases h

/-- A Python that knows no digits beyond ASCII. -/
def asciiDigits : UnicodeDigits where
  digit := asciiDigit
  lt_ten := asciiDigit_lt_ten
  ascii _ _ := rfl
  visible := isSpace_of_asciiDigit

/-- Three cells of text. -/
def numbersColumn : Series := ⟨"ssn", "String", [.text "078051120", .text " 7.0 ", .null]⟩

def numbersBatch : TransferBatch :=
  { frame := ⟨[numbersColumn], by decide, by decide⟩, rowCount := 3, byteCount := 0, sequence := 0 }

/-- The column as whole numbers. -/
def castColumn : Series := ⟨"ssn", "Int64", [.int 78051120, .int 7, .null]⟩

/-- A library that casts the column. -/
def castingLibrary : Library :=
  { Library.sample with
    decimal := fun value => decimalOfText asciiDigits value.printed
    strictCast := fun type series =>
      if type = .plain .bigint ∧ series = numbersColumn then some castColumn.values else none }

theorem castingLibrary_casts : CastsNumbers asciiDigits castingLibrary := by
  have only (type : CastType) (series : Series) (values : List Cell)
      (h : castingLibrary.strictCast type series = some values) :
      series = numbersColumn ∧ values = castColumn.values := by
    simp only [castingLibrary] at h
    split_ifs at h with cast
    cases h
    exact ⟨cast.2, rfl⟩
  refine ⟨fun _ => by rw [castingLibrary], fun type series values h => ?_, fun type _ series values h => ?_,
    fun type _ series values h => ?_⟩
  · obtain ⟨rfl, rfl⟩ := only type series values h
    exact .cons (by decide) (.cons (by decide) (.cons (by decide) .nil))
  · obtain ⟨rfl, rfl⟩ := only type series values h
    simp [castColumn, isNumber]
  · obtain ⟨rfl, rfl⟩ := only type series values h
    simp [numbersColumn, Underscored]

/-- The batch after the cast. -/
def castBatch : TransferBatch :=
  { numbersBatch with frame := ⟨[castColumn], by decide, by decide⟩ }

theorem castBatchColumns_numbersBatch :
    castBatchColumns castingLibrary numbersBatch [("ssn", .bigint)] = .ok castBatch := by
  have series : (Casting.castTargets castingLibrary numbersBatch.frame [("ssn", .bigint)] >>=
      Casting.castAll castingLibrary numbersBatch.frame) = .ok [castColumn] := rfl
  have columns : numbersBatch.frame.withColumns [castColumn] = .ok castBatch.frame := rfl
  have kept : Casting.losesPrecision castingLibrary numbersBatch.frame castBatch.frame "ssn" =
      false := by decide +kernel
  rw [castBatchColumns, if_neg (by decide), series]
  dsimp only
  rw [columns]
  dsimp only
  rw [List.find?_cons, kept, Bool.and_false]
  rfl

theorem ssn_detection_depends_on_the_number_text :
    containsSupportedSsn asciiDigits (.text "078-05-1120") =
        containsSupportedSsn asciiDigits (.int 78051120) ∧
      ∃ s s', numbersBatch.frame.column? "ssn" = some s ∧
        castBatch.frame.column? "ssn" = some s' ∧
          List.Forall₂ (fun before after => containsSupportedSsn asciiDigits before =
            containsSupportedSsn asciiDigits after) s.values s'.values :=
  ⟨(ssn_detection_depends_on_the_number castingLibrary_casts).forms 78051120 (by decide) ['-'] ['-']
      (.inr (.inl rfl)) (.inr (.inl rfl)),
    (ssn_detection_depends_on_the_number castingLibrary_casts).casts numbersBatch castBatch
      [("ssn", .bigint)] (by decide) castBatchColumns_numbersBatch "ssn" .bigint (by decide)
      (by decide)⟩

end Ssn

end DataMover
