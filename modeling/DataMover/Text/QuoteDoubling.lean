import DataMover.Text.Delimited

/-!
# Doubled quotes

Two dialects that differ only in whether a doubled quote stands for one quote.  Their readers go
together up to the first doubled quote in a quoted field.  There one of them takes the field to be over
and the other one reads on, so they make the same of the text only when nothing follows in it that ends
a field.
-/

namespace Delimited

namespace Dialect

/-- The dialect in which a quote ends a quoted field. -/
def single (d : Dialect) : Dialect := { d with doubleQuote := false }

/-- The dialect in which a doubled quote stands for a quote. -/
def doubled (d : Dialect) : Dialect := { d with doubleQuote := true }

/-- What follows the first doubled quote in a quoted field, if there is one. -/
def afterDoubled (d : Dialect) : Reader → List Char → Option (List Char)
  | _, [] => none
  | r, c :: cs =>
    if r.state = .quoteInQuotedField ∧ c = d.quote then some cs
    else
      let r := d.doubled.step r (some c)
      if lineEnds c cs then
        let r := d.doubled.step r none
        if r.state = .startRecord then afterDoubled d {} cs else afterDoubled d r cs
      else afterDoubled d r cs

end Dialect

/-- The characters that neither end a field nor start or end a quoted part. -/
def Plain (d : Dialect) (text : List Char) : Prop := ∀ c ∈ text, goesOn d c = true ∧ c ≠ d.quote

section Apart

variable {d : Dialect} {r : Reader} {c : Char} {cs text : List Char} {P : List Char → Prop}

/-- A quote in a quoted field may end it. -/
theorem head_of_quote (hs : r.state = .inQuotedField) (proper : d.Proper) (now : P r.field)
    (later : Head (d.doubled.read { r with state := .quoteInQuotedField } cs)
      (FieldAt r.fields.length P)) :
    Head (d.doubled.read r (d.quote :: cs)) (FieldAt r.fields.length P) := by
  have closes : d.doubled.step r (some d.quote) = { r with state := .quoteInQuotedField } := by
    simp [Dialect.step, hs, Dialect.doubled]
  cases cs with
  | nil =>
    have ends : Dialect.lineEnds d.quote [] = true := by simp [Dialect.lineEnds]
    rw [Dialect.read, if_pos ends, closes, step_end (.inr (.inr rfl))]
    exact ⟨_, _, rfl, fieldAt_last now⟩
  | cons b cs =>
    rwa [read_of_open (lineEnds_eq_false proper.quote (List.cons_ne_nil _ _)), closes]

theorem ne_of_char {f g more : List Char} {a b : Char} (longer : f ++ [a] <+: g) (ne : a ≠ b) :
    g ≠ f ++ b :: more := by
  rintro rfl
  have := (List.prefix_append_right_inj f).1 longer
  exact ne (by simpa using this)

theorem goesOn_quote (proper : d.Proper) : goesOn d d.quote = true := by
  simp [goesOn, proper.quote, proper.distinct.symm]

/-- The reader that reads on does not catch up with one that has more quotes. -/
theorem head_of_more_quotes {j : Nat}
    (hs : r.state = .inQuotedField ∨ r.state = .quoteInQuotedField) (proper : d.Proper)
    (nonempty : r.field ≠ []) :
    Head (d.doubled.read r text) (FieldAt r.fields.length fun field =>
      field ≠ r.field ++ d.quote :: (List.replicate j d.quote ++ text.takeWhile (goesOn d))) := by
  have shorter (f more : List Char) : f ≠ f ++ d.quote :: more := by simp
  induction text generalizing r j with
  | nil =>
    rw [Dialect.read, Dialect.finish, if_pos (.inl nonempty)]
    exact ⟨_, _, rfl, fieldAt_last (shorter _ _)⟩
  | cons c cs ih =>
    by_cases quote : c = d.quote
    · subst quote
      rw [List.takeWhile_cons_of_pos (goesOn_quote proper)]
      have more : List.replicate j d.quote ++ d.quote :: cs.takeWhile (goesOn d) =
          List.replicate (j + 1) d.quote ++ cs.takeWhile (goesOn d) := by
        rw [List.replicate_succ', List.append_assoc, List.singleton_append]
      rw [more]
      rcases hs with h | h
      · exact head_of_quote h proper (shorter _ _)
          (ih (r := { r with state := .quoteInQuotedField }) (.inr rfl) nonempty)
      · have opens : d.doubled.step r (some d.quote) = r.add d.quote .inQuotedField := by
          simp [Dialect.step, h, Dialect.doubled]
        rw [read_of_quoted (by rw [opens]; rfl), opens]
        have later := ih (r := r.add d.quote .inQuotedField) (j := j) (.inl rfl) (by simp [Reader.add])
        simpa [Reader.add, List.replicate_succ] using later
    · refine head_of_step ?_
      have reads_on (state : State) (filling : Filling state)
          (h : d.doubled.step r (some c) = r.add c state) :
          Settled r.fields.length (fun field => field ≠ r.field ++ d.quote ::
            (List.replicate j d.quote ++ (c :: cs).takeWhile (goesOn d)))
            (d.doubled.step r (some c)) := by
        rw [h]
        exact .inr ⟨rfl, filling, fun field longer => ne_of_char longer quote⟩
      rcases hs with h | h
      · refine reads_on .inQuotedField (.inr (.inl rfl)) ?_
        simp [Dialect.step, h, Dialect.doubled, quote]
      · by_cases stops : c = d.delimiter ∨ isNewline c = true
        · left
          have saved : (d.doubled.step r (some c)).fields = r.fields ++ [r.field] := by
            by_cases delimiter : c = d.delimiter
            · simp [Dialect.step, h, Dialect.doubled, delimiter, proper.distinct, Reader.save]
            · simp [Dialect.step, h, Dialect.doubled, quote, delimiter,
                stops.resolve_left delimiter, Reader.save]
          rw [saved]
          exact fieldAt_last (shorter _ _)
        · push Not at stops
          refine reads_on .inField (.inl rfl) ?_
          simp [Dialect.step, h, Dialect.doubled, quote, stops]

/-- The reader that reads on in the quoted field does not end it where the other one does. -/
theorem head_of_reading_on (hs : r.state = .inQuotedField) (proper : d.Proper)
    (nonempty : r.field ≠ []) (special : ¬ Plain d text) :
    Head (d.doubled.read r text) (FieldAt r.fields.length fun field =>
      field ≠ r.field ++ text.takeWhile (goesOn d)) := by
  induction text generalizing r with
  | nil => exact absurd nofun special
  | cons c cs ih =>
    by_cases quote : c = d.quote
    · subst quote
      rw [List.takeWhile_cons_of_pos (goesOn_quote proper)]
      refine head_of_quote hs proper (by simp) ?_
      exact head_of_more_quotes (r := { r with state := .quoteInQuotedField }) (j := 0)
        (.inr rfl) proper nonempty
    · have added : d.doubled.step r (some c) = r.add c .inQuotedField := by
        simp [Dialect.step, hs, Dialect.doubled, quote]
      by_cases goes : goesOn d c = true
      · have later : ¬ Plain d cs := fun plain =>
          special (List.forall_mem_cons.2 ⟨⟨goes, quote⟩, plain⟩)
        have rest := ih (r := r.add c .inQuotedField) rfl (by simp [Reader.add]) later
        rw [read_of_quoted (by rw [added]; rfl), added, List.takeWhile_cons_of_pos goes]
        simpa [Reader.add] using rest
      · rw [List.takeWhile_cons_of_neg goes, List.append_nil]
        refine head_of_step ?_
        rw [added]
        refine .inr ⟨rfl, .inr (.inl rfl), fun field longer => ?_⟩
        rintro rfl
        have := longer.length_le
        simp [Reader.add] at this

/-- A plain text is the rest of a field, quoted or not. -/
theorem read_plain_end (hs : r.state = .inField ∨ r.state = .inQuotedField) (nonempty : r.field ≠ [])
    (plain : Plain d text) (doubleQuote : Bool) :
    ({ d with doubleQuote } : Dialect).read r text = [r.fields ++ [r.field ++ text]] := by
  induction text generalizing r with
  | nil => rw [Dialect.read, Dialect.finish, if_pos (.inl nonempty), List.append_nil]
  | cons c cs ih =>
    obtain ⟨⟨goes, quote⟩, plain⟩ := List.forall_mem_cons.1 plain
    have line : isNewline c = false ∧ c ≠ d.delimiter := by simpa [goesOn] using goes
    have added : ({ d with doubleQuote } : Dialect).step r (some c) = r.add c r.state := by
      rcases hs with h | h
      · simp [Dialect.step, h, line]
      · simp [Dialect.step, h, quote]
    have later := ih (r := r.add c r.state) hs (by simp [Reader.add]) plain
    have joined : (r.add c r.state).fields ++ [(r.add c r.state).field ++ cs] =
        r.fields ++ [r.field ++ c :: cs] := by
      simp [Reader.add]
    rw [joined] at later
    cases cs with
    | nil =>
      rcases hs with h | h
      · have ends : Dialect.lineEnds c [] = true := by simp [Dialect.lineEnds]
        have saved : ({ d with doubleQuote } : Dialect).step (r.add c r.state) none =
            (r.add c r.state).save .startRecord := step_end (.inr (.inl h))
        rw [Dialect.read, if_pos ends, added, saved]
        rfl
      · rw [read_of_quoted (by rw [added]; exact h), added, later]
    | cons b cs =>
      rw [read_of_open (lineEnds_eq_false line.1 (List.cons_ne_nil _ _)), added, later]

/-- After a doubled quote the two readers make the same records only of a plain text; other records may
be left out. -/
theorem apart_iff {keep : List (List Char) → Bool} (proper : d.Proper)
    (kept : ∀ row, (∃ field ∈ row, d.quote ∈ field) → keep row = true) (fields : List (List Char))
    (field : List Char) (quoted : d.quote ∈ field) :
    (d.single.read ⟨.inField, fields, field⟩ text).filter keep =
        (d.doubled.read ⟨.inQuotedField, fields, field⟩ text).filter keep ↔ Plain d text := by
  have nonempty : field ≠ [] := List.ne_nil_of_mem quoted
  constructor
  · intro same
    by_contra special
    have cut : Head (d.single.read ⟨.inField, fields, field⟩ text)
        (FieldAt fields.length fun g => g = field ++ text.takeWhile (goesOn d.single)) :=
      head_of_inField rfl (.inr (.inl nonempty))
    obtain ⟨row, tail, read, field₁, at₁, eq⟩ := cut
    obtain ⟨row', tail', read', field₂, at₂, ne⟩ := head_of_reading_on
      (r := ⟨.inQuotedField, fields, field⟩) rfl proper nonempty special
    have longerHead : Head (d.doubled.read ⟨.inQuotedField, fields, field⟩ text)
        (FieldAt fields.length fun g => field <+: g) :=
      head_of_settled (.inr ⟨rfl, .inr (.inl rfl), fun _ => id⟩) (.inr (.inl nonempty))
    obtain ⟨row'', tail'', read'', field₃, at₃, longer⟩ := longerHead
    rw [read', List.cons.injEq] at read''
    obtain ⟨rfl, rfl⟩ := read''
    have keeps : keep row = true := by
      refine kept row ⟨field₁, List.mem_of_getElem? at₁, ?_⟩
      rw [eq]
      exact List.mem_append_left _ quoted
    have keeps' : keep row' = true := by
      refine kept row' ⟨field₃, List.mem_of_getElem? at₃, longer.subset quoted⟩
    rw [read, read', List.filter_cons_of_pos keeps, List.filter_cons_of_pos keeps',
      List.cons.injEq] at same
    rw [same.1, at₂, Option.some.injEq] at at₁
    exact ne (at₁.trans eq)
  · intro plain
    rw [Dialect.single, Dialect.doubled, read_plain_end (.inl rfl) nonempty plain,
      read_plain_end (.inr rfl) nonempty plain]

end Apart

/-! ## Reading with both dialects -/

/-- The two readers are at one place; after a quote in a quoted field, one of them waits for another
quote. -/
structure Together (r r' : Reader) : Prop where
  fields : r.fields = r'.fields
  field : r.field = r'.field
  state : r.state = r'.state ∨ r.state = .inField ∧ r'.state = .quoteInQuotedField
  single : r.state ≠ .quoteInQuotedField

section Both

variable {d : Dialect} {r r' : Reader} {c : Char} {cs text : List Char}

theorem Together.refl (h : r.state ≠ .quoteInQuotedField) : Together r r :=
  ⟨rfl, rfl, .inl rfl, h⟩

/-- Without doubled quotes no reader waits for one. -/
theorem single_step (hs : r.state ≠ .quoteInQuotedField) (e : Option Char) :
    (d.single.step r e).state ≠ .quoteInQuotedField := by
  unfold Dialect.step Dialect.startField Reader.save Reader.add Dialect.single
  cases state : r.state <;> cases e <;> dsimp only <;> (try split_ifs) <;> simp_all

/-- A character that is no doubled quote keeps the readers together. -/
theorem Together.step (h : Together r r') (proper : d.Proper)
    (other : ¬ (r'.state = .quoteInQuotedField ∧ c = d.quote)) :
    Together (d.single.step r (some c)) (d.doubled.step r' (some c)) := by
  have next := single_step (d := d) h.single (some c)
  obtain ⟨state, F, f⟩ := r
  obtain ⟨state', F', f'⟩ := r'
  obtain ⟨fields, field, states, single⟩ := h
  dsimp only at fields field states single other
  subst fields field
  rcases states with rfl | ⟨rfl, rfl⟩
  · cases state with
    | quoteInQuotedField => exact absurd rfl single
    | inQuotedField =>
      by_cases quote : c = d.quote
      · have closes : d.single.step ⟨.inQuotedField, F, f⟩ (some c) = ⟨.inField, F, f⟩ := by
          simp [Dialect.step, Dialect.single, quote]
        have waits : d.doubled.step ⟨.inQuotedField, F, f⟩ (some c) =
            ⟨.quoteInQuotedField, F, f⟩ := by
          simp [Dialect.step, Dialect.doubled, quote]
        rw [closes, waits]
        exact ⟨rfl, rfl, .inr ⟨rfl, rfl⟩, State.noConfusion⟩
      · have same : d.doubled.step ⟨.inQuotedField, F, f⟩ (some c) =
            d.single.step ⟨.inQuotedField, F, f⟩ (some c) := by
          simp [Dialect.step, Dialect.single, Dialect.doubled, quote]
        rw [same]
        exact .refl next
    | _ => exact .refl next
  · have quote : c ≠ d.quote := fun e => other ⟨rfl, e⟩
    have same : d.doubled.step ⟨.quoteInQuotedField, F, f⟩ (some c) =
        d.single.step ⟨.inField, F, f⟩ (some c) := by
      by_cases delimiter : c = d.delimiter
      · simp [Dialect.step, Dialect.single, Dialect.doubled, delimiter, proper.delimiter,
          proper.distinct, Reader.save]
      · simp [Dialect.step, Dialect.single, Dialect.doubled, quote, delimiter, Reader.save,
          Reader.add]
    rw [same]
    exact .refl next

/-- The end of a line keeps the readers together. -/
theorem Together.end (h : Together r r') :
    Together (d.single.step r none) (d.doubled.step r' none) := by
  have next := single_step (d := d) h.single none
  obtain ⟨state, F, f⟩ := r
  obtain ⟨state', F', f'⟩ := r'
  obtain ⟨fields, field, states, single⟩ := h
  dsimp only at fields field states single
  subst fields field
  rcases states with rfl | ⟨rfl, rfl⟩
  · cases state with
    | quoteInQuotedField => exact absurd rfl single
    | _ => exact .refl next
  · exact .refl next

theorem Together.startRecord_iff (h : Together r r') :
    r.state = .startRecord ↔ r'.state = .startRecord := by
  rcases h.state with e | ⟨e, e'⟩
  · rw [e]
  · rw [e, e']
    decide

/-- A doubled quote: one reader takes the field to be over, the other one reads on. -/
theorem read_doubled (h : Together r r') (proper : d.Proper)
    (hs : r'.state = .quoteInQuotedField) (cs : List Char) :
    d.single.read r (d.quote :: cs) = d.single.read (r'.add d.quote .inField) cs ∧
      d.doubled.read r' (d.quote :: cs) = d.doubled.read (r'.add d.quote .inQuotedField) cs := by
  have inField : r.state = .inField := by
    rcases h.state with same | ⟨inField, -⟩
    · exact absurd (same.trans hs) h.single
    · exact inField
  have taken : d.single.step r (some d.quote) = r'.add d.quote .inField := by
    simp [Dialect.step, inField, Dialect.single, proper.quote, proper.distinct.symm, Reader.add,
      h.fields, h.field]
  have opens : d.doubled.step r' (some d.quote) = r'.add d.quote .inQuotedField := by
    simp [Dialect.step, hs, Dialect.doubled]
  constructor
  · cases cs with
    | nil =>
      have ends : Dialect.lineEnds d.quote [] = true := by simp [Dialect.lineEnds]
      have left_over : (r'.add d.quote .inField).field ≠ [] := by simp [Reader.add]
      have rest : d.single.read (r'.add d.quote .inField) [] =
          [(r'.add d.quote .inField).fields ++ [(r'.add d.quote .inField).field]] := by
        rw [Dialect.read, Dialect.finish, if_pos (.inl left_over)]
      rw [rest, Dialect.read, if_pos ends, taken, step_end (.inr (.inl rfl))]
      rfl
    | cons b cs =>
      rw [read_of_open (lineEnds_eq_false proper.quote (List.cons_ne_nil _ _)), taken]
  · rw [read_of_quoted (by rw [opens]; rfl), opens]

/-- The readers make the same records exactly when the first doubled quote, if there is one, is
followed by a plain text; other records may be left out. -/
theorem filter_read_iff {keep : List (List Char) → Bool} (proper : d.Proper)
    (kept : ∀ row, (∃ field ∈ row, d.quote ∈ field) → keep row = true) (h : Together r r') :
    (d.single.read r text).filter keep = (d.doubled.read r' text).filter keep ↔
      ∀ after, d.afterDoubled r' text = some after → Plain d after := by
  induction text generalizing r r' with
  | nil =>
    have same : d.single.read r [] = d.doubled.read r' [] := by
      have quoted : r.state = .inQuotedField ↔ r'.state = .inQuotedField := by
        rcases h.state with e | ⟨e, e'⟩
        · rw [e]
        · rw [e, e']
          decide
      simp only [Dialect.read, Dialect.finish, h.field, h.fields, quoted]
    rw [same, Dialect.afterDoubled]
    simp
  | cons c cs ih =>
    by_cases other : r'.state = .quoteInQuotedField ∧ c = d.quote
    · obtain ⟨hs, rfl⟩ := other
      have reads := read_doubled (d := d) h proper hs
      rw [Dialect.afterDoubled, if_pos ⟨hs, rfl⟩, (reads cs).1, (reads cs).2, Reader.add, Reader.add,
        apart_iff proper kept _ _ (List.mem_append_right _ List.mem_cons_self)]
      simp
    · have next := h.step proper other
      rw [Dialect.afterDoubled, if_neg other, Dialect.read, Dialect.read]
      dsimp only
      by_cases ends : Dialect.lineEnds c cs = true
      · have ended := next.end (d := d)
        rw [if_pos ends, if_pos ends, if_pos ends]
        by_cases done : (d.doubled.step (d.doubled.step r' (some c)) none).state = .startRecord
        · rw [if_pos (ended.startRecord_iff.2 done), if_pos done, if_pos done, ended.fields,
            ← ih (.refl (by decide)), List.filter_cons, List.filter_cons]
          split_ifs
          · exact List.cons_inj_right _
          · exact Iff.rfl
        · rw [if_neg fun e => done (ended.startRecord_iff.1 e), if_neg done, if_neg done]
          exact ih ended
      · rw [if_neg ends, if_neg ends, if_neg ends]
        exact ih next

end Both

end Delimited
