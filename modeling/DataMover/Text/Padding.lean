import DataMover.Engine.Labels

/-!
# Zero-padded numerals

Numerals that are padded to one width are ordered like their numbers, character by character.
-/

namespace DataMover

/-! ## Numerals of one length -/

section Numerals

variable {ds es : List Char}

theorem foldl_numeral (ds : List Char) (n : Nat) :
    ds.foldl (fun n c => 10 * n + (c.toNat - '0'.toNat)) n = n * 10 ^ ds.length + numeral ds := by
  induction ds generalizing n with
  | nil => simp [numeral]
  | cons d ds ih =>
    rw [numeral, List.foldl_cons, List.foldl_cons, ih, ih, List.length_cons, pow_succ]
    ring

theorem numeral_cons (d : Char) (ds : List Char) :
    numeral (d :: ds) = (d.toNat - '0'.toNat) * 10 ^ ds.length + numeral ds := by
  rw [numeral, List.foldl_cons, foldl_numeral]
  ring

/-- A character that is a digit, as a number. -/
theorem digit_bounds {c : Char} (h : c.isDigit = true) : '0'.toNat ≤ c.toNat ∧ c.toNat < '0'.toNat + 10 := by
  rw [Char.isDigit, Bool.and_eq_true, decide_eq_true_eq, decide_eq_true_eq] at h
  have low := UInt32.le_iff_toNat_le.1 h.1
  have high := UInt32.le_iff_toNat_le.1 h.2
  change 48 ≤ c.toNat at low
  change c.toNat ≤ 57 at high
  change 48 ≤ c.toNat ∧ c.toNat < 48 + 10
  omega

theorem numeral_lt (all : ∀ c ∈ ds, c.isDigit = true) : numeral ds < 10 ^ ds.length := by
  induction ds with
  | nil => decide
  | cons d ds ih =>
    obtain ⟨digit, all⟩ := List.forall_mem_cons.1 all
    have bounds := digit_bounds digit
    have rest := ih all
    rw [numeral_cons, List.length_cons, pow_succ]
    have top : (d.toNat - '0'.toNat) * 10 ^ ds.length ≤ 9 * 10 ^ ds.length :=
      Nat.mul_le_mul_right _ (by omega)
    omega

/-- Of two numerals of one length the smaller one comes first, before whatever follows. -/
theorem map_lt_of_numeral_lt {α : Type} [LinearOrder α] {f : Char → α}
    (mono : ∀ c d : Char, c.toNat < d.toNat → f c < f d) (length : ds.length = es.length)
    (all : ∀ c ∈ ds, c.isDigit = true) (all' : ∀ c ∈ es, c.isDigit = true)
    (lt : numeral ds < numeral es) (rest : List α) : ds.map f ++ rest < es.map f ++ rest := by
  induction ds generalizing es with
  | nil =>
    rw [List.length_eq_zero_iff.1 length.symm] at lt
    exact absurd lt (lt_irrefl _)
  | cons d ds ih =>
    cases es with
    | nil => cases length
    | cons e es =>
      have same : ds.length = es.length := Nat.succ.inj length
      obtain ⟨digit, tail⟩ := List.forall_mem_cons.1 all
      obtain ⟨digit', tail'⟩ := List.forall_mem_cons.1 all'
      have bounds := digit_bounds digit
      have bounds' := digit_bounds digit'
      rw [numeral_cons, numeral_cons, same] at lt
      rw [List.map_cons, List.map_cons, List.cons_append, List.cons_append]
      rcases lt_trichotomy d.toNat e.toNat with less | equal | more
      · exact List.cons_lt_cons_iff.2 (.inl (mono d e less))
      · obtain rfl := Char.toNat_inj.1 equal
        exact List.cons_lt_cons_iff.2 (.inr ⟨rfl, ih same tail tail' (by omega)⟩)
      · -- the first digits decide, whatever the other ones are
        have small := numeral_lt tail'
        have top : (e.toNat - '0'.toNat + 1) * 10 ^ es.length ≤ (d.toNat - '0'.toNat) * 10 ^ es.length :=
          Nat.mul_le_mul_right _ (by omega)
        rw [Nat.add_mul, Nat.one_mul] at top
        omega

end Numerals

/-! ## Padding -/

/-- `f"{n:0{width}d}"`. -/
def padded (width n : Nat) : List Char := (digits n).leftpad width '0'

section Padded

variable {width m n : Nat}

theorem isDigit_padded (width n : Nat) : ∀ c ∈ padded width n, c.isDigit = true := by
  intro c hc
  rcases List.mem_append.1 hc with zero | digit
  · rw [List.eq_of_mem_replicate zero]
    rfl
  · exact isDigit_digits n c digit

theorem numeral_padded (width n : Nat) : numeral (padded width n) = n := by
  have zeros (k : Nat) : numeral (List.replicate k '0') = 0 := by
    induction k with
    | zero => rfl
    | succ k ih => rw [List.replicate_succ, numeral_cons, ih, Nat.sub_self, Nat.zero_mul]
  rw [padded, List.leftpad, numeral, List.foldl_append, foldl_numeral, numeral_digits]
  unfold numeral at zeros
  rw [zeros, Nat.zero_mul, Nat.zero_add]

theorem length_padded (positive : 0 < width) (small : n < 10 ^ width) : (padded width n).length = width := by
  have short : (digits n).length ≤ width := (Nat.length_toDigits_le_iff (by decide) positive).2 small
  rw [padded, List.length_leftpad]
  omega

/-- Padded numerals are ordered like their numbers. -/
theorem padded_lt {α : Type} [LinearOrder α] {f : Char → α}
    (mono : ∀ c d : Char, c.toNat < d.toNat → f c < f d) (positive : 0 < width) (lt : m < n)
    (small : n < 10 ^ width) (rest : List α) :
    (padded width m).map f ++ rest < (padded width n).map f ++ rest := by
  refine map_lt_of_numeral_lt mono ?_ (isDigit_padded _ _) (isDigit_padded _ _) ?_ rest
  · rw [length_padded positive (lt.trans small), length_padded positive small]
  · rwa [numeral_padded, numeral_padded]

end Padded

end DataMover
