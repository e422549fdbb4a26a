import Mathlib

/-!
# Fixed-point and floating-point numbers

The numbers with `p` digits in the base `b`, `s` of them after the point: `k / b ^ s` with `|k| < b ^ p`.
Such a type contains another one when it has as many digits on either side of the point.  A
floating-point type has a range of exponents instead, and contains the small integers.
-/

namespace FixedPoint

/-- The values with `p` digits, `s` of them after the point. -/
def values (b p s : ℕ) : Set ℚ := {v | ∃ k : ℤ, |k| < (b : ℤ) ^ p ∧ v = k / (b : ℚ) ^ s}

section

variable {b p s P S : ℕ}

theorem zero_mem (hb : 1 < b) : (0 : ℚ) ∈ values b p s :=
  ⟨0, by rw [abs_zero]; positivity, by simp⟩

/-- The value, counted in units of the last digit. -/
theorem mem_values_iff (hb : 1 < b) {v : ℚ} :
    v ∈ values b p s ↔ ∃ k : ℤ, |k| < (b : ℤ) ^ p ∧ v * (b : ℚ) ^ s = k := by
  have unit : (b : ℚ) ^ s ≠ 0 := by positivity
  constructor
  · rintro ⟨k, small, rfl⟩
    exact ⟨k, small, div_mul_cancel₀ _ unit⟩
  · rintro ⟨k, small, same⟩
    exact ⟨k, small, (eq_div_iff unit).2 same⟩

/-- More digits on either side of the point. -/
theorem values_subset (hb : 1 < b) (fraction : s ≤ S) (whole : p + S ≤ P + s) :
    values b p s ⊆ values b P S := by
  intro v hv
  obtain ⟨k, small, same⟩ := (mem_values_iff hb).1 hv
  refine (mem_values_iff hb).2 ⟨k * (b : ℤ) ^ (S - s), ?_, ?_⟩
  · have pos : (0 : ℤ) < (b : ℤ) ^ (S - s) := by positivity
    calc |k * (b : ℤ) ^ (S - s)| = |k| * (b : ℤ) ^ (S - s) := by rw [abs_mul, abs_of_pos pos]
      _ < (b : ℤ) ^ p * (b : ℤ) ^ (S - s) := mul_lt_mul_of_pos_right small pos
      _ = (b : ℤ) ^ (p + (S - s)) := (pow_add _ _ _).symm
      _ ≤ (b : ℤ) ^ P := pow_le_pow_right₀ (by omega) (by omega)
  · have split : (b : ℚ) ^ S = (b : ℚ) ^ s * (b : ℚ) ^ (S - s) := by
      rw [← pow_add, Nat.add_sub_cancel' fraction]
    rw [split, ← mul_assoc, same]
    push_cast
    rfl

/-- The digits of a type that contains another one, which has a digit at all. -/
theorem values_subset_iff (hb : 1 < b) (hp : 1 ≤ p) :
    values b p s ⊆ values b P S ↔ s ≤ S ∧ p + S ≤ P + s := by
  refine ⟨fun sub => ?_, fun ⟨fraction, whole⟩ => values_subset hb fraction whole⟩
  have scaled {k : ℤ} (small : |k| < (b : ℤ) ^ p) :
      ∃ k' : ℤ, |k'| < (b : ℤ) ^ P ∧ k * (b : ℤ) ^ S = k' * (b : ℤ) ^ s := by
    obtain ⟨k', small', same⟩ := sub ⟨k, small, rfl⟩
    refine ⟨k', small', ?_⟩
    rw [div_eq_div_iff (by positivity) (by positivity)] at same
    exact_mod_cast same
  have fraction : s ≤ S := by
    -- the last digit of the smaller type is a multiple of the last one of the larger type
    obtain ⟨k', -, same⟩ := scaled (k := 1) (by
      rw [abs_one]
      exact one_lt_pow₀ (by exact_mod_cast hb) (by omega))
    rw [one_mul] at same
    have dvd : (b : ℤ) ^ s ∣ (b : ℤ) ^ S := ⟨k', by rw [same, mul_comm]⟩
    exact (Nat.pow_dvd_pow_iff_le_right hb).1 (by exact_mod_cast dvd)
  refine ⟨fraction, ?_⟩
  -- so is the largest number of the smaller type
  have large : (b : ℤ) ^ (p - 1) ≤ (b : ℤ) ^ p - 1 := by
    have lt : (b : ℤ) ^ (p - 1) < (b : ℤ) ^ p := pow_lt_pow_right₀ (by exact_mod_cast hb) (by omega)
    omega
  have nonneg : (0 : ℤ) ≤ (b : ℤ) ^ p - 1 := le_trans (by positivity) large
  obtain ⟨k', small', same⟩ := scaled (k := (b : ℤ) ^ p - 1) (by rw [abs_of_nonneg nonneg]; omega)
  have units : k' = ((b : ℤ) ^ p - 1) * (b : ℤ) ^ (S - s) := by
    have unit : (b : ℤ) ^ s ≠ 0 := by positivity
    refine mul_right_cancel₀ unit ?_
    rw [← same, mul_assoc, ← pow_add, Nat.sub_add_cancel fraction]
  have bound : (b : ℤ) ^ (p - 1 + (S - s)) < (b : ℤ) ^ P := by
    rw [pow_add]
    refine lt_of_le_of_lt ?_ (lt_of_abs_lt small')
    rw [units]
    exact mul_le_mul_of_nonneg_right large (by positivity)
  have := (pow_lt_pow_iff_right₀ (by exact_mod_cast hb)).1 bound
  omega

end

end FixedPoint

namespace FloatingPoint

/-- The values with `p` digits and an exponent from `low` to `high`. -/
def values (b p : ℕ) (low high : ℤ) : Set ℚ :=
  {v | ∃ k e : ℤ, |k| < (b : ℤ) ^ p ∧ low ≤ e ∧ e ≤ high ∧ v = k * (b : ℚ) ^ e}

section

variable {b p P : ℕ} {low high Low High : ℤ}

/-- More digits, and a larger range of exponents. -/
theorem values_subset (hb : 0 < b) (digits : p ≤ P) (below : Low ≤ low) (above : high ≤ High) :
    values b p low high ⊆ values b P Low High := by
  rintro v ⟨k, e, small, le, ge, rfl⟩
  refine ⟨k, e, small.trans_le ?_, below.trans le, ge.trans above, rfl⟩
  exact pow_le_pow_right₀ (by exact_mod_cast hb) digits

/-- The integers up to the first one that may need another digit. -/
theorem int_mem (hb : 1 < b) (hp : 1 ≤ p) (below : low ≤ 0) (above : 1 ≤ high) {n : ℤ}
    (small : |n| ≤ (b : ℤ) ^ p) : (n : ℚ) ∈ values b p low high := by
  rcases small.lt_or_eq with lt | full
  · exact ⟨n, 0, lt, below, by omega, by simp⟩
  · -- a power of the base moves its exponent
    have split : (b : ℤ) ^ p = b ^ (p - 1) * b := by rw [← pow_succ, Nat.sub_add_cancel hp]
    have shorter : (b : ℤ) ^ (p - 1) < b ^ p := pow_lt_pow_right₀ (by exact_mod_cast hb) (by omega)
    have sign : n = n.sign * (b : ℤ) ^ (p - 1) * b := by
      rw [mul_assoc, ← split, ← full, Int.abs_eq_natAbs, Int.sign_mul_natAbs]
    refine ⟨n.sign * b ^ (p - 1), 1, ?_, by omega, above, ?_⟩
    · rw [abs_mul, abs_of_nonneg (show (0 : ℤ) ≤ b ^ (p - 1) by positivity)]
      have unit : |n.sign| ≤ 1 := by
        rcases lt_trichotomy n 0 with h | h | h
        · rw [Int.sign_eq_neg_one_of_neg h]
          decide
        · rw [h]
          decide
        · rw [Int.sign_eq_one_of_pos h]
          decide
      nlinarith [abs_nonneg n.sign, show (0 : ℤ) ≤ (b : ℤ) ^ (p - 1) by positivity]
    · rw [zpow_one]
      exact_mod_cast sign

end

end FloatingPoint
