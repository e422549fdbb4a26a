import Mathlib

/-!
# Regular expressions with look-around

The part of a regular expression language that fixed-length patterns need: characters of a class,
concatenation, alternatives, optional parts, negative look-ahead and a negative look-behind of one
character.  `ends` tries a pattern at a position in the order of a backtracking matcher; `Matches` says
what a match is.
-/

/-- A regular expression over characters `α`. -/
inductive Pattern (α : Type) where
  | empty
  | one (p : α → Bool)
  | cat (r s : Pattern α)
  | either (r s : Pattern α)
  | optional (r : Pattern α)
  | notAhead (r : Pattern α)
  | notBehind (p : α → Bool)

namespace Pattern

variable {α : Type}

/-- `r{n}`. -/
def times : Nat → Pattern α → Pattern α
  | 0, _ => empty
  | n + 1, r => cat r (times n r)

/-- A text that stands for itself. -/
def literal [DecidableEq α] : List α → Pattern α
  | [] => empty
  | c :: cs => cat (one fun d => d = c) (literal cs)

/-- Between these characters, the pattern matches the word. -/
def Matches : Pattern α → (before word rest : List α) → Prop
  | empty, _, word, _ => word = []
  | one p, _, word, _ => ∃ c, p c = true ∧ word = [c]
  | cat r s, before, word, rest => ∃ u v, word = u ++ v ∧ r.Matches before u (v ++ rest) ∧
      s.Matches (before ++ u) v rest
  | either r s, before, word, rest => r.Matches before word rest ∨ s.Matches before word rest
  | optional r, before, word, rest => r.Matches before word rest ∨ word = []
  | notAhead r, before, word, rest => word = [] ∧ ∀ u v, rest = u ++ v → ¬ r.Matches before u v
  | notBehind p, before, word, _ => word = [] ∧ ∀ c, before.getLast? = some c → p c = false

/-- The words that the pattern matches at a position, each with what comes after it. -/
def ends : Pattern α → (before after : List α) → List (List α × List α)
  | empty, _, after => [([], after)]
  | one _, _, [] => []
  | one p, _, c :: after => if p c then [([c], after)] else []
  | cat r s, before, after => (r.ends before after).flatMap fun e =>
      (s.ends (before ++ e.1) e.2).map fun e' => (e.1 ++ e'.1, e'.2)
  | either r s, before, after => r.ends before after ++ s.ends before after
  | optional r, before, after => r.ends before after ++ [([], after)]
  | notAhead r, before, after => if (r.ends before after).isEmpty then [([], after)] else []
  | notBehind p, before, after => if before.getLast?.any p then [] else [([], after)]

/-- `re.search`: the pattern matches somewhere. -/
def search (r : Pattern α) (text : List α) : Bool :=
  (List.range (text.length + 1)).any fun i => !(r.ends (text.take i) (text.drop i)).isEmpty

theorem mem_ends {r : Pattern α} {before after word rest : List α} :
    (word, rest) ∈ r.ends before after ↔ after = word ++ rest ∧ r.Matches before word rest := by
  induction r generalizing before after word rest with
  | empty =>
    rw [ends, List.mem_singleton, Prod.mk.injEq, Matches]
    constructor
    · rintro ⟨rfl, rfl⟩
      exact ⟨rfl, rfl⟩
    · rintro ⟨rfl, rfl⟩
      exact ⟨rfl, rfl⟩
  | one p =>
    cases after with
    | nil =>
      constructor
      · exact nofun
      · rintro ⟨h, c, -, rfl⟩
        cases h
    | cons d after =>
      rw [ends, Matches]
      constructor
      · intro h
        split_ifs at h with hp
        · cases List.mem_singleton.1 h
          exact ⟨rfl, d, hp, rfl⟩
        · cases h
      · rintro ⟨h, c, hp, rfl⟩
        cases h
        rw [if_pos hp]
        exact List.mem_singleton.2 rfl
  | cat r s ihr ihs =>
    simp only [ends, Matches, List.mem_flatMap, List.mem_map, Prod.exists, Prod.mk.injEq, ihr, ihs]
    constructor
    · rintro ⟨u, middle, ⟨rfl, hr⟩, v, last, ⟨rfl, hs⟩, rfl, rfl⟩
      exact ⟨(List.append_assoc ..).symm, u, v, rfl, hr, hs⟩
    · rintro ⟨rfl, u, v, rfl, hr, hs⟩
      exact ⟨u, v ++ rest, ⟨List.append_assoc .., hr⟩, v, rest, ⟨rfl, hs⟩, rfl, rfl⟩
  | either r s ihr ihs =>
    rw [ends, List.mem_append, ihr, ihs, Matches, and_or_left]
  | optional r ih =>
    rw [ends, List.mem_append, ih, List.mem_singleton, Prod.mk.injEq, Matches, and_or_left]
    refine or_congr Iff.rfl ⟨?_, ?_⟩
    · rintro ⟨rfl, rfl⟩
      exact ⟨rfl, rfl⟩
    · rintro ⟨rfl, rfl⟩
      exact ⟨rfl, rfl⟩
  | notAhead r ih =>
    have none_iff : (r.ends before after).isEmpty = true ↔
        ∀ u v, after = u ++ v → ¬ r.Matches before u v := by
      rw [List.isEmpty_iff, List.eq_nil_iff_forall_not_mem]
      constructor
      · exact fun h u v split hm => h (u, v) (ih.2 ⟨split, hm⟩)
      · rintro h ⟨u, v⟩ hm
        exact h u v (ih.1 hm).1 (ih.1 hm).2
    rw [ends, Matches]
    constructor
    · intro h
      split_ifs at h with hn
      · cases List.mem_singleton.1 h
        exact ⟨rfl, rfl, none_iff.1 hn⟩
      · cases h
    · rintro ⟨rfl, rfl, h⟩
      rw [if_pos (none_iff.2 h)]
      exact List.mem_singleton.2 rfl
  | notBehind p =>
    have clear : before.getLast?.any p = false ↔ ∀ c, before.getLast? = some c → p c = false := by
      cases before.getLast? <;> simp
    rw [ends, Matches]
    constructor
    · intro h
      split_ifs at h with hb
      · cases h
      · cases List.mem_singleton.1 h
        exact ⟨rfl, rfl, clear.1 (by simpa using hb)⟩
    · rintro ⟨rfl, rfl, h⟩
      rw [if_neg (by rw [clear.2 h]; decide)]
      exact List.mem_singleton.2 rfl

/-- A search finds every match. -/
theorem search_iff {r : Pattern α} {text : List α} :
    r.search text = true ↔
      ∃ before word rest, text = before ++ word ++ rest ∧ r.Matches before word rest := by
  rw [search, List.any_eq_true]
  constructor
  · rintro ⟨i, -, found⟩
    obtain ⟨⟨word, rest⟩, he⟩ : ∃ e, e ∈ r.ends (text.take i) (text.drop i) :=
      List.exists_mem_of_ne_nil _ (by simpa using found)
    obtain ⟨split, matched⟩ := mem_ends.1 he
    refine ⟨_, word, rest, ?_, matched⟩
    rw [List.append_assoc, ← split, List.take_append_drop]
  · rintro ⟨before, word, rest, rfl, matched⟩
    refine ⟨before.length, List.mem_range.2 (by simp), ?_⟩
    have found : (word, rest) ∈ r.ends before (word ++ rest) := mem_ends.2 ⟨rfl, matched⟩
    rw [List.append_assoc, List.take_left, List.drop_left]
    simpa using List.ne_nil_of_mem found

/-! ## Matches of fixed length -/

variable {before word rest : List α}

@[simp] theorem matches_cat {r s : Pattern α} : (cat r s).Matches before word rest ↔
    ∃ u v, word = u ++ v ∧ r.Matches before u (v ++ rest) ∧ s.Matches (before ++ u) v rest :=
  Iff.rfl

theorem matches_times_one {p : α → Bool} {n : Nat} :
    (times n (one p)).Matches before word rest ↔ word.length = n ∧ ∀ c ∈ word, p c = true := by
  induction n generalizing before word with
  | zero =>
    rw [times, Matches, List.length_eq_zero_iff]
    constructor
    · rintro rfl
      exact ⟨rfl, nofun⟩
    · exact And.left
  | succ n ih =>
    simp only [times, Matches, ih]
    constructor
    · rintro ⟨_, v, rfl, ⟨c, hc, rfl⟩, length, all⟩
      exact ⟨by simp [length], by simpa [hc] using all⟩
    · rintro ⟨length, all⟩
      cases word with
      | nil => cases length
      | cons c v =>
        exact ⟨[c], v, rfl, ⟨c, all c List.mem_cons_self, rfl⟩, by simpa using length,
          fun d hd => all d (List.mem_cons_of_mem _ hd)⟩

theorem matches_literal [DecidableEq α] {text : List α} :
    (literal text).Matches before word rest ↔ word = text := by
  induction text generalizing before word with
  | nil => exact Iff.rfl
  | cons c cs ih =>
    simp only [literal, Matches, ih]
    constructor
    · rintro ⟨_, _, rfl, ⟨d, hd, rfl⟩, rfl⟩
      rw [of_decide_eq_true hd]
      rfl
    · rintro rfl
      exact ⟨[c], cs, rfl, ⟨c, decide_eq_true rfl, rfl⟩, rfl⟩

/-- A text is not ahead when other characters are, as many. -/
theorem matches_notAhead_literal [DecidableEq α] {text ahead after : List α}
    (length : ahead.length = text.length) (split : after = ahead ++ rest) :
    (notAhead (literal text)).Matches before word after ↔ word = [] ∧ ahead ≠ text := by
  rw [Matches, split]
  refine and_congr Iff.rfl ⟨fun h e => ?_, fun ne u v split hm => ?_⟩
  · exact h ahead rest rfl (matches_literal.2 e)
  · obtain rfl := matches_literal.1 hm
    exact ne (List.append_inj_left split length)

/-- Neither alternative is ahead. -/
theorem matches_notAhead_either {r s : Pattern α} : (notAhead (either r s)).Matches before word rest ↔
    (notAhead r).Matches before word rest ∧ (notAhead s).Matches before word rest := by
  simp only [Matches, not_or]
  constructor
  · rintro ⟨none, h⟩
    exact ⟨⟨none, fun u v e => (h u v e).1⟩, none, fun u v e => (h u v e).2⟩
  · rintro ⟨⟨none, h⟩, -, h'⟩
    exact ⟨none, fun u v e => ⟨h u v e, h' u v e⟩⟩

theorem matches_notAhead_one {p : α → Bool} : (notAhead (one p)).Matches before word rest ↔
    word = [] ∧ ∀ c, rest.head? = some c → p c = false := by
  rw [Matches]
  refine and_congr Iff.rfl ⟨fun h c hc => ?_, ?_⟩
  · obtain ⟨cs, rfl⟩ := List.head?_eq_some_iff.1 hc
    by_contra matched
    exact h [c] cs rfl ⟨c, by simpa using matched, rfl⟩
  · rintro h _ v rfl ⟨c, hc, rfl⟩
    rw [h c rfl] at hc
    cases hc

end Pattern
