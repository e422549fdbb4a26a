import DataMover.Engine.Transfer
import DataMover.Interference

/-!
# Advancing owned sequences

`_advance_owned_sequences` moves the sequence of a column that a load supplies beyond the keys of the
destination and of the staging table, while other sessions call `nextval` and write rows.  It looks at
the sequence twice: first by a `nextval` of its own, then under the lock of an `ALTER SEQUENCE`, which
blocks other calls until the transaction ends.
-/

namespace DataMover.Sequences

open Program (call World)

/-! ## Sequences -/

/-- A sequence that does not cycle. -/
structure Sequence where
  increment : Int
  minValue : Int
  maxValue : Int
  cache : Int
  lastValue : Int
  isCalled : Bool
  increment_ne : increment ≠ 0

namespace Sequence

/-- The value that comes next. -/
def nextAvailable (s : Sequence) : Int := s.lastValue + if s.isCalled then s.increment else 0

/-- `nextval`; `none` at the end of the sequence. -/
def nextval (s : Sequence) : Option (Int × Sequence) :=
  let value := s.nextAvailable
  if s.minValue ≤ value ∧ value ≤ s.maxValue then
    some (value, { s with lastValue := value, isCalled := true })
  else none

/-- `ALTER SEQUENCE … RESTART WITH value`; `none` when the value is out of bounds. -/
def restart (s : Sequence) (value : Int) : Option Sequence :=
  if s.minValue ≤ value ∧ value ≤ s.maxValue then
    some { s with lastValue := value, isCalled := false }
  else none

end Sequence

/-- `a` lies strictly after `b` in the direction of the increment. -/
def Beyond (increment a b : Int) : Prop := (0 < increment → b < a) ∧ (increment < 0 → a < b)

/-- `a` does not lie before `b` in the direction of the increment. -/
def NotBefore (increment a b : Int) : Prop := (0 < increment → b ≤ a) ∧ (increment < 0 → a ≤ b)

/-! ## The database -/

/-- What the function and other sessions see of the database.  The last two fields record what has
happened: the values that `nextval` has returned, and the keys that the function read last. -/
structure Catalog where
  owned : String → Option String
  sequences : String → Option Sequence
  canUpdate : String → Bool
  isOwner : String → Bool
  destination : String → List (Option Int)
  staging : String → List (Option Int)
  locked : String → Bool
  returned : String → List Int
  lastRead : String → List Int

/-- The statements of the function. -/
inductive Call where
  | serialSequence (column : String)
  | settings (name : String)
  | boundary (maximum : Bool) (column : String)
  | nextval (name : String)
  | sequenceOwner (name : String)
  | alterCache (name : String)
  | state (name : String)
  | restart (name : String) (value : Int)

/-- What they return. -/
abbrev Call.Answer : Call → Type
  | serialSequence _ => Option String
  | settings _ => Option (Int × Int × Bool)
  | boundary _ _ => Option Int
  | nextval _ => Int
  | sequenceOwner _ => Option Bool
  | state _ => Option (Int × Bool)
  | alterCache _ | restart _ _ => Unit

namespace Catalog

/-- The keys of a column in both tables. -/
def keys (t : Catalog) (column : String) : List Int :=
  (t.destination column ++ t.staging column).reduceOption

def setSequence (t : Catalog) (name : String) (s : Sequence) : Catalog :=
  { t with sequences := Function.update t.sequences name (some s) }

/-- A call of `nextval`. -/
def nextval (t : Catalog) (name : String) : Option (Int × Catalog) := do
  let s ← t.sequences name
  let (value, s) ← s.nextval
  return (value, { t.setSequence name s with
    returned := Function.update t.returned name (value :: t.returned name) })

/-- What PostgreSQL answers; `none` when the statement fails. -/
def serve (t : Catalog) : (c : Call) → Option (c.Answer × Catalog)
  | .serialSequence column => some (t.owned column, t)
  | .settings name =>
    some ((t.sequences name).map fun s => (s.increment, s.cache, t.canUpdate name), t)
  | .boundary maximum column =>
    some (if maximum then (t.keys column).max? else (t.keys column).min?,
      { t with lastRead := Function.update t.lastRead column (t.keys column) })
  | .nextval name => t.nextval name
  | .sequenceOwner name => some ((t.sequences name).map fun _ => t.isOwner name, t)
  | .alterCache name =>
    (t.sequences name).map fun s => ((), { t.setSequence name { s with cache := 1 } with
      locked := Function.update t.locked name true })
  | .state name => some ((t.sequences name).map fun s => (s.lastValue, s.isCalled), t)
  | .restart name value => do
    let s ← t.sequences name
    let s ← s.restart value
    return ((), t.setSequence name s)

/-- What other sessions do: they call `nextval` or move a sequence onward, unless it is locked, and
they write rows. -/
inductive Others : Catalog → Catalog → Prop
  | nextval {t t' : Catalog} {name : String} {value : Int} (unlocked : t.locked name = false)
      (h : t.nextval name = some (value, t')) : Others t t'
  | advanced {t : Catalog} {name : String} {s s' : Sequence} {value : Int}
      (unlocked : t.locked name = false) (h : t.sequences name = some s)
      (onward : NotBefore s.increment value s.nextAvailable) (hs : s.restart value = some s') :
      Others t (t.setSequence name s')
  | write (t : Catalog) (destination : String → List (Option Int)) : Others t { t with destination }

/-- The function's statements are answered or fail, other sessions go on, and the commit of the
transaction releases the locks. -/
def world : World Call.Answer Exn Catalog where
  Answers t c r t' := (∃ e, r = .error e ∧ t' = t) ∨ ∃ a, r = .ok a ∧ t.serve c = some (a, t')
  Others := Others
  Ends t t' := t' = { t with locked := fun _ => false }

end Catalog

/-! ## The function -/

/-- `cursor.execute`, and what it fetches. -/
def execute (c : Call) : Program Call.Answer Exn c.Answer := call c

/-- `_owned_sequence_settings`. -/
def ownedSequenceSettings (column : String) : Program Call.Answer Exn (String × Int) := do
  let sequenceName := (← execute (.serialSequence column)).getD ""
  if sequenceName = "" then
    .throw (fatal .schemaDrift
      "The destination sequence for this generated key could not be found.")
  else
    match ← execute (.settings sequenceName) with
    | none => .throw (fatal .schemaDrift "The destination sequence settings could not be read.")
    | some (increment, cache, canUpdate) =>
      if cache ≠ 1 then
        .throw (fatal .schemaDrift
          ("Explicit sequence-backed key values require a sequence with CACHE 1. Change the sequence " ++
            "cache and reconnect sessions holding cached values before running this route."))
      else if !canUpdate then
        .throw (fatal .permissionDenied
          ("Writing explicit sequence-backed key values requires UPDATE permission on the destination " ++
            "sequence."))
      else return (sequenceName, increment)

/-- `restart_value`. -/
def restartValue (increment latestBoundary nextAvailable : Int) : Int :=
  if increment > 0 then max (latestBoundary + increment) nextAvailable
  else min (latestBoundary + increment) nextAvailable

/-- The part of `_advance_owned_sequences` that works under the lock of the sequence. -/
def advanceLocked (column name : String) (increment loadedBoundary : Int) :
    Program Call.Answer Exn Unit := do
  execute (.alterCache name)
  match ← execute (.state name) with
  | none => .throw (fatal .schemaDrift "The destination sequence state could not be read.")
  | some (lastValue, isCalled) =>
    let nextAvailable := lastValue + if isCalled then increment else 0
    let latest ← execute (.boundary (0 < increment) column)
    -- the rows of a writer that has finished meanwhile count too
    let latestBoundary := latest.getD loadedBoundary
    let value := restartValue increment latestBoundary nextAvailable
    if value ≠ nextAvailable then execute (.restart name value) else return ()

/-- The body of the loop of `_advance_owned_sequences`. -/
def advanceColumn (column : String) : Program Call.Answer Exn Unit := do
  let (name, increment) ← ownedSequenceSettings column
  match ← execute (.boundary (0 < increment) column) with
  | none => return ()
  | some loadedBoundary =>
    let nextValue ← execute (.nextval name)
    if (increment > 0 ∧ loadedBoundary ≤ nextValue) ∨
        (increment < 0 ∧ loadedBoundary ≥ nextValue) then return ()
    else
      match ← execute (.sequenceOwner name) with
      | some true => advanceLocked column name increment loadedBoundary
      | _ => .throw (fatal .permissionDenied
          ("Advancing this destination sequence safely requires sequence ownership. " ++
            "Ask its owner to run the transfer or choose a generated destination key."))

/-- `_advance_owned_sequences`. -/
def advanceOwnedSequences : List String → Program Call.Answer Exn Unit
  | [] => return ()
  | column :: rest => do
    advanceColumn column
    advanceOwnedSequences rest

/-! ## Moving onward -/

section Onward

variable {t t' : Catalog} {name column : String}

theorem Beyond.of_notBefore {i a b c : Int} (h : NotBefore i a b) (h' : Beyond i b c) : Beyond i a c := by
  unfold NotBefore at h
  unfold Beyond at h' ⊢
  omega

theorem notBefore_refl (i a : Int) : NotBefore i a a := ⟨fun _ => le_refl a, fun _ => le_refl a⟩

/-- What the function and other sessions do to a sequence, and which values are returned meanwhile. -/
structure Onward (t t' : Catalog) : Prop where
  owned : t'.owned = t.owned
  moved : ∀ name s, t.sequences name = some s → ∃ s', t'.sequences name = some s' ∧
    s'.increment = s.increment ∧ NotBefore s.increment s'.nextAvailable s.nextAvailable ∧
    ∀ v ∈ t'.returned name, v ∈ t.returned name ∨ Beyond s.increment s'.nextAvailable v
  absent : ∀ name, t.sequences name = none → t'.sequences name = none

theorem Onward.of_same (owned : t'.owned = t.owned) (sequences : t'.sequences = t.sequences)
    (returned : t'.returned = t.returned) : Onward t t' where
  owned := owned
  moved name s hs :=
    ⟨s, by rw [sequences, hs], rfl, notBefore_refl _ _, fun v hv => .inl (returned ▸ hv)⟩
  absent name hn := by rw [sequences, hn]

theorem Onward.of_update {s s' : Sequence} (hs : t.sequences name = some s)
    (owned : t'.owned = t.owned)
    (sequences : t'.sequences = Function.update t.sequences name (some s'))
    (increment : s'.increment = s.increment)
    (onward : NotBefore s.increment s'.nextAvailable s.nextAvailable)
    (returned : ∀ n, ∀ v ∈ t'.returned n,
      v ∈ t.returned n ∨ n = name ∧ Beyond s.increment s'.nextAvailable v) : Onward t t' where
  owned := owned
  moved n r hr := by
    by_cases h : n = name
    · subst h
      obtain rfl : s = r := Option.some.inj (hs.symm.trans hr)
      exact ⟨s', by rw [sequences, Function.update_self], increment, onward,
        fun v hv => (returned n v hv).imp_right And.right⟩
    · refine ⟨r, by rw [sequences, Function.update_of_ne h, hr], rfl, notBefore_refl _ _,
        fun v hv => .inl ?_⟩
      exact (returned n v hv).resolve_right fun e => h e.1
  absent n hn := by
    have h : n ≠ name := by
      rintro rfl
      rw [hs] at hn
      cases hn
    rw [sequences, Function.update_of_ne h, hn]

/-- `nextval` returns the value that comes next, and the sequence goes on behind it. -/
theorem Catalog.nextval_eq {value : Int} (h : t.nextval name = some (value, t')) :
    ∃ s s', t.sequences name = some s ∧ s.nextAvailable = value ∧
      s'.increment = s.increment ∧ s'.nextAvailable = value + s.increment ∧
      t' = { t.setSequence name s' with
        returned := Function.update t.returned name (value :: t.returned name) } := by
  unfold Catalog.nextval at h
  cases hs : t.sequences name with
  | none =>
    rw [hs] at h
    cases h
  | some s =>
    rw [hs] at h
    simp only [Option.bind_eq_bind, Option.bind_some, Sequence.nextval] at h
    by_cases bounds : s.minValue ≤ s.nextAvailable ∧ s.nextAvailable ≤ s.maxValue
    · rw [if_pos bounds] at h
      cases h
      exact ⟨s, { s with lastValue := s.nextAvailable, isCalled := true }, rfl, rfl, rfl, rfl, rfl⟩
    · rw [if_neg bounds] at h
      cases h

theorem Onward.of_nextval {value : Int} (h : t.nextval name = some (value, t')) : Onward t t' := by
  obtain ⟨s, s', hs, hv, increment, next, rfl⟩ := Catalog.nextval_eq h
  have beyond : Beyond s.increment s'.nextAvailable value := by
    unfold Beyond
    omega
  refine Onward.of_update hs rfl rfl increment ?_ fun n v hv' => ?_
  · unfold NotBefore
    omega
  · by_cases same : n = name
    · subst same
      rcases List.mem_cons.1 (by simpa using hv') with rfl | old
      · exact .inr ⟨rfl, beyond⟩
      · exact .inl old
    · exact .inl (by simpa [same] using hv')

theorem Sequence.restart_eq {s s' : Sequence} {value : Int} (h : s.restart value = some s') :
    s'.increment = s.increment ∧ s'.nextAvailable = value := by
  unfold Sequence.restart at h
  by_cases bounds : s.minValue ≤ value ∧ value ≤ s.maxValue
  · rw [if_pos bounds] at h
    cases h
    exact ⟨rfl, by simp [Sequence.nextAvailable]⟩
  · rw [if_neg bounds] at h
    cases h

theorem Onward.of_restart {s s' : Sequence} {value : Int} (hs : t.sequences name = some s)
    (onward : NotBefore s.increment value s.nextAvailable) (h : s.restart value = some s') :
    Onward t (t.setSequence name s') := by
  obtain ⟨increment, next⟩ := Sequence.restart_eq h
  exact Onward.of_update hs rfl rfl increment (next ▸ onward) fun n v hv => .inl hv

/-- What other sessions do keeps the reads and locks of the function, and its locked sequences. -/
theorem Catalog.Others.onward (h : Catalog.Others t t') :
    Onward t t' ∧ t'.lastRead = t.lastRead ∧ t'.locked = t.locked ∧
      ∀ name, t.locked name = true → t'.sequences name = t.sequences name := by
  cases h with
  | nextval unlocked h =>
    refine ⟨.of_nextval h, ?_⟩
    obtain ⟨s, s', hs, -, -, -, rfl⟩ := Catalog.nextval_eq h
    refine ⟨rfl, rfl, fun n locked => Function.update_of_ne ?_ _ _⟩
    rintro rfl
    rw [unlocked] at locked
    cases locked
  | advanced unlocked hs onward h =>
    refine ⟨.of_restart hs onward h, rfl, rfl, fun n locked => Function.update_of_ne ?_ _ _⟩
    rintro rfl
    rw [unlocked] at locked
    cases locked
  | write destination => exact ⟨.of_same rfl rfl rfl, rfl, rfl, fun _ _ => rfl⟩

/-! ## Statements -/

theorem Catalog.answers_ok {c : Call} {a : c.Answer} :
    Catalog.world.Answers t c (.ok a) t' ↔ t.serve c = some (a, t') := by
  constructor
  · rintro (⟨e, h, -⟩ | ⟨b, h, hs⟩)
    · cases h
    · cases h
      exact hs
  · exact fun h => .inr ⟨a, rfl, h⟩

/-- The statements of the function move sequences onward, a restart if it does not go back. -/
theorem Catalog.serve_onward {c : Call} {a : c.Answer} (h : t.serve c = some (a, t'))
    (onward : ∀ name value s, c = .restart name value → t.sequences name = some s →
      NotBefore s.increment value s.nextAvailable) : Onward t t' := by
  cases c with
  | serialSequence column => cases h; exact .of_same rfl rfl rfl
  | settings name => cases h; exact .of_same rfl rfl rfl
  | boundary maximum column => cases h; exact .of_same rfl rfl rfl
  | nextval name => exact .of_nextval h
  | sequenceOwner name => cases h; exact .of_same rfl rfl rfl
  | alterCache name =>
    obtain ⟨s, hs, he⟩ := Option.map_eq_some_iff.1 h
    cases he
    exact .of_update hs rfl rfl rfl (notBefore_refl _ _) fun n v hv => .inl hv
  | state name => cases h; exact .of_same rfl rfl rfl
  | restart name value =>
    obtain ⟨s, hs, h⟩ := Option.bind_eq_some_iff.1 h
    obtain ⟨s', hr, h⟩ := Option.bind_eq_some_iff.1 h
    cases h
    exact .of_restart hs (onward name value s rfl hs) hr

/-- Only a read of a column changes what was read of it. -/
theorem Catalog.serve_lastRead {c : Call} {a : c.Answer} (h : t.serve c = some (a, t'))
    (other : ∀ maximum, c ≠ .boundary maximum column) : t'.lastRead column = t.lastRead column := by
  cases c with
  | boundary maximum d =>
    cases h
    refine Function.update_of_ne ?_ _ _
    rintro rfl
    exact other maximum rfl
  | nextval name =>
    obtain ⟨s, s', -, -, -, -, rfl⟩ := Catalog.nextval_eq h
    rfl
  | alterCache name =>
    obtain ⟨s, hs, he⟩ := Option.map_eq_some_iff.1 h
    cases he
    rfl
  | restart name value =>
    obtain ⟨s, hs, h⟩ := Option.bind_eq_some_iff.1 h
    obtain ⟨s', hr, h⟩ := Option.bind_eq_some_iff.1 h
    cases h
    rfl
  | serialSequence | settings | sequenceOwner | state => cases h; rfl

/-- The boundary lies at or behind every key that was read. -/
theorem Catalog.serve_boundary {increment : Int} {a : Option Int}
    (h : t.serve (.boundary (0 < increment) column) = some (a, t')) :
    (a = none → t'.lastRead column = []) ∧
      ∀ b, a = some b → ∀ k ∈ t'.lastRead column, NotBefore increment b k := by
  cases h
  simp only [Function.update_self]
  by_cases sign : 0 < increment
  · rw [if_pos (decide_eq_true sign)]
    refine ⟨List.max?_eq_none_iff.1, fun b hb k hk => ⟨fun _ => ?_, fun _ => by omega⟩⟩
    exact (List.max?_eq_some_iff.1 hb).2 k hk
  · rw [if_neg (by simpa using sign)]
    refine ⟨List.min?_eq_none_iff.1, fun b hb k hk => ⟨fun _ => by omega, fun _ => ?_⟩⟩
    exact (List.min?_eq_some_iff.1 hb).2 k hk

end Onward

/-! ## What holds between the statements -/

/-- No value that was returned comes again. -/
def Ordered (t : Catalog) : Prop :=
  ∀ name s, t.sequences name = some s → ∀ v ∈ t.returned name, Beyond s.increment s.nextAvailable v

/-- The sequence of the column is beyond the keys that were read last. -/
def Passed (t : Catalog) (column : String) : Prop :=
  ∀ name s, t.owned column = some name → t.sequences name = some s →
    ∀ k ∈ t.lastRead column, Beyond s.increment s.nextAvailable k

/-- The function is done with some columns and works on one. -/
structure Working (done : List String) (column : String) (t : Catalog) : Prop where
  ordered : Ordered t
  passed : ∀ c ∈ done, c ≠ column → Passed t c

/-- The function is done with some columns. -/
structure Settled (done : List String) (t : Catalog) : Prop where
  ordered : Ordered t
  passed : ∀ c ∈ done, Passed t c

/-- The settings that the function has read. -/
def Known (column name : String) (increment : Int) (t : Catalog) : Prop :=
  t.owned column = some name ∧ ∃ s, t.sequences name = some s ∧ s.increment = increment

/-- The keys that were read last do not lie behind a boundary. -/
def Bounded (column : String) (increment boundary : Int) (t : Catalog) : Prop :=
  ∀ k ∈ t.lastRead column, NotBefore increment boundary k

/-- The function holds the lock of the sequence, whose next value it knows. -/
def Held (name : String) (increment nextAvailable : Int) (t : Catalog) : Prop :=
  t.locked name = true ∧
    ∃ s, t.sequences name = some s ∧ s.increment = increment ∧ s.nextAvailable = nextAvailable

section Assertions

variable {t t' : Catalog} {done : List String} {column name : String} {increment : Int}

theorem Onward.ordered (h : Onward t t') (ordered : Ordered t) : Ordered t' := by
  intro name s' hs' v hv
  cases hs : t.sequences name with
  | none =>
    rw [h.absent name hs] at hs'
    cases hs'
  | some s =>
    obtain ⟨r, hr, increment, onward, returned⟩ := h.moved name s hs
    obtain rfl : r = s' := Option.some.inj (hr.symm.trans hs')
    rw [increment]
    rcases returned v hv with old | new
    · exact Beyond.of_notBefore onward (ordered name s hs v old)
    · exact new

theorem Onward.passed (h : Onward t t') (same : t'.lastRead column = t.lastRead column)
    (passed : Passed t column) : Passed t' column := by
  intro name s' owned hs' k hk
  rw [h.owned] at owned
  rw [same] at hk
  cases hs : t.sequences name with
  | none =>
    rw [h.absent name hs] at hs'
    cases hs'
  | some s =>
    obtain ⟨r, hr, increment, onward, -⟩ := h.moved name s hs
    obtain rfl : r = s' := Option.some.inj (hr.symm.trans hs')
    rw [increment]
    exact Beyond.of_notBefore onward (passed name s owned hs k hk)

theorem Onward.known (h : Onward t t') (known : Known column name increment t) :
    Known column name increment t' := by
  obtain ⟨owned, s, hs, hi⟩ := known
  obtain ⟨s', hs', increment', -⟩ := h.moved name s hs
  exact ⟨h.owned ▸ owned, s', hs', increment'.trans hi⟩

theorem Onward.working (h : Onward t t')
    (same : ∀ c, c ≠ column → t'.lastRead c = t.lastRead c) (working : Working done column t) :
    Working done column t' :=
  ⟨h.ordered working.ordered, fun c hc ne => h.passed (same c ne) (working.passed c hc ne)⟩

theorem Onward.settled (h : Onward t t') (same : t'.lastRead = t.lastRead) (settled : Settled done t) :
    Settled done t' :=
  ⟨h.ordered settled.ordered, fun c hc => h.passed (congrFun same c) (settled.passed c hc)⟩

theorem Working.settled (h : Working done column t) (passed : Passed t column) :
    Settled (column :: done) t := by
  refine ⟨h.ordered, fun c hc => ?_⟩
  by_cases same : c = column
  · exact same ▸ passed
  · exact h.passed c ((List.mem_cons.1 hc).resolve_left same) same

theorem Settled.working (h : Settled done t) : Working done column t :=
  ⟨h.ordered, fun c hc _ => h.passed c hc⟩

theorem keeps_settled : Catalog.world.Keeps (Settled done) := fun _ _ h hs =>
  have ⟨onward, lastRead, _⟩ := Catalog.Others.onward h
  onward.settled lastRead hs

theorem keeps_working : Catalog.world.Keeps (Working done column) := fun _ _ h hw =>
  have ⟨onward, lastRead, _⟩ := Catalog.Others.onward h
  onward.working (fun c _ => congrFun lastRead c) hw

theorem keeps_known : Catalog.world.Keeps (Known column name increment) := fun _ _ h hk =>
  (Catalog.Others.onward h).1.known hk

theorem keeps_bounded {boundary : Int} : Catalog.world.Keeps (Bounded column increment boundary) :=
  fun _ _ h hb => by
    rw [Bounded, (Catalog.Others.onward h).2.1]
    exact hb

theorem keeps_locked : Catalog.world.Keeps fun t => t.locked name = true := fun _ _ h hl =>
  (congrFun (Catalog.Others.onward h).2.2.1 name).trans hl

/-- Other sessions do not move the locked sequence. -/
theorem keeps_held {nextAvailable : Int} :
    Catalog.world.Keeps (Held name increment nextAvailable) := fun _ _ h ⟨locked, hs⟩ => by
  obtain ⟨-, -, locks, same⟩ := Catalog.Others.onward h
  exact ⟨locks ▸ locked, same name locked ▸ hs⟩

end Assertions

/-! ## The function meets its purpose -/

section Meets

variable {t : Catalog} {done : List String} {column name : String} {increment : Int}

open Catalog (answers_ok serve_onward serve_lastRead serve_boundary)

/-- A statement that is no restart and reads another column keeps what holds while working. -/
theorem Working.served {t' : Catalog} {c : Call} {a : c.Answer} (h : Working done column t)
    (served : t.serve c = some (a, t')) (noRestart : ∀ name value, c ≠ .restart name value)
    (reads : ∀ maximum other, c = .boundary maximum other → other = column) :
    Working done column t' :=
  (serve_onward served fun n v _ hc => absurd hc (noRestart n v)).working
    (fun _ ne => serve_lastRead served fun m hc => ne (reads m _ hc)) h

theorem Known.served {t' : Catalog} {c : Call} {a : c.Answer} (h : Known column name increment t)
    (served : t.serve c = some (a, t')) (noRestart : ∀ name value, c ≠ .restart name value) :
    Known column name increment t' :=
  (serve_onward served fun n v _ hc => absurd hc (noRestart n v)).known h

theorem ownedSequenceSettings_meets (h : Working done column t) :
    Catalog.world.Meets (fun t r => Working done column t ∧ Known column r.1 r.2 t) t
      (ownedSequenceSettings column) := by
  refine World.Meets.call_bind keeps_working h fun t₁ a t₂ working served => ?_
  cases answers_ok.1 served
  by_cases absent : (t₁.owned column).getD "" = ""
  · rw [if_pos absent]
    trivial
  · rw [if_neg absent]
    obtain ⟨name, owned⟩ : ∃ name, t₁.owned column = some name :=
      Option.ne_none_iff_exists'.1 fun none => absent (by rw [none]; rfl)
    rw [owned, Option.getD_some]
    have keeps : Catalog.world.Keeps fun t => t.owned column = some name := fun _ _ h ho =>
      (congrFun (Catalog.Others.onward h).1.owned column).trans ho
    refine World.Meets.call_bind (keeps_working.and keeps) ⟨working, owned⟩
      fun t₃ b t₄ holds served => ?_
    cases answers_ok.1 served
    cases hs : t₃.sequences name with
    | none => trivial
    | some s =>
      rw [Option.map_some]
      by_cases cached : s.cache ≠ 1
      · simp only [if_pos cached]
        trivial
      · simp only [if_neg cached]
        by_cases denied : (!t₃.canUpdate name) = true
        · rw [if_pos denied]
          trivial
        · rw [if_neg denied]
          exact ⟨holds.1, holds.2, s, hs, rfl⟩

/-- The value of the restart lies behind the boundary and not before the next value. -/
theorem restartValue_spec (increment boundary nextAvailable : Int) :
    Beyond increment (restartValue increment boundary nextAvailable) boundary ∧
      NotBefore increment (restartValue increment boundary nextAvailable) nextAvailable := by
  unfold restartValue Beyond NotBefore
  split_ifs <;> omega

theorem Beyond.of_bounded {i a b c : Int} (h : Beyond i a b) (h' : NotBefore i b c) :
    Beyond i a c := by
  unfold NotBefore at h'
  unfold Beyond at h ⊢
  omega

theorem advanceLocked_meets {boundary : Int} (h : Working done column t)
    (known : Known column name increment t) :
    Catalog.world.Meets (fun t _ => Settled (column :: done) t) t
      (advanceLocked column name increment boundary) := by
  -- the lock
  refine World.Meets.call_bind (keeps_working.and keeps_known) ⟨h, known⟩
    fun t₁ _ t₂ ⟨working, known⟩ served => ?_
  have served := answers_ok.1 served
  have locked : t₂.locked name = true := by
    obtain ⟨s, -, he⟩ := Option.map_eq_some_iff.1 served
    cases he
    exact Function.update_self ..
  replace working := working.served served nofun nofun
  replace known := known.served served nofun
  -- the state of the locked sequence
  refine World.Meets.call_bind ((keeps_working.and keeps_known).and keeps_locked)
    ⟨⟨working, known⟩, locked⟩ fun t₃ state t₄ ⟨⟨working, known⟩, locked⟩ served => ?_
  cases answers_ok.1 served
  obtain ⟨owned, s, hs, rfl⟩ := known
  rw [hs, Option.map_some]
  simp only
  have held : Held name s.increment s.nextAvailable t₃ := ⟨locked, s, hs, rfl, rfl⟩
  have keeps : Catalog.world.Keeps fun t => t.owned column = some name := fun _ _ h ho =>
    (congrFun (Catalog.Others.onward h).1.owned column).trans ho
  -- the boundary under the lock
  refine World.Meets.call_bind ((keeps_working.and keeps_held).and keeps) ⟨⟨working, held⟩, owned⟩
    fun t₅ latest t₆ ⟨⟨working, held⟩, owned⟩ served => ?_
  have served := answers_ok.1 served
  have bounded : Bounded column s.increment (latest.getD boundary) t₆ := by
    obtain ⟨none, some⟩ := serve_boundary served
    cases latest with
    | none =>
      intro k hk
      rw [none rfl] at hk
      cases hk
    | some b => exact some b rfl
  replace working := working.served served nofun (fun _ _ e => (Call.boundary.inj e).2.symm)
  have sequences : t₆.sequences = t₅.sequences ∧ t₆.owned = t₅.owned ∧ t₆.locked = t₅.locked := by
    cases served
    exact ⟨rfl, rfl, rfl⟩
  have held : Held name s.increment s.nextAvailable t₆ := by
    unfold Held
    rw [sequences.1, sequences.2.2]
    exact held
  have owned : t₆.owned column = some name := by rw [sequences.2.1, owned]
  obtain ⟨beyond, onward⟩ := restartValue_spec s.increment (latest.getD boundary) s.nextAvailable
  have next : s.lastValue + (if s.isCalled then s.increment else 0) = s.nextAvailable := rfl
  rw [next]
  by_cases restarts :
      restartValue s.increment (latest.getD boundary) s.nextAvailable ≠ s.nextAvailable
  · rw [if_pos restarts]
    refine World.Meets.call (((keeps_working.and keeps_held).and keeps).and keeps_bounded)
      ⟨⟨⟨working, held⟩, owned⟩, bounded⟩ fun t₇ _ t₈ ⟨⟨⟨working, held⟩, owned⟩, bounded⟩ served => ?_
    have served := answers_ok.1 served
    obtain ⟨-, r, hr, hi, hn⟩ := held
    have moved := serve_onward served fun n v s' hc hs' => by
      obtain ⟨rfl, rfl⟩ := Call.restart.inj hc
      obtain rfl : r = s' := Option.some.inj (hr.symm.trans hs')
      rw [hi, hn]
      exact onward
    have reads (c : String) : t₈.lastRead c = t₇.lastRead c := serve_lastRead served nofun
    refine (moved.working (fun c _ => reads c) working).settled fun name' s' ho hs' k hk => ?_
    obtain rfl : name = name' := by
      rw [moved.owned, owned] at ho
      exact Option.some.inj ho
    obtain ⟨r', hr', hs⟩ := Option.bind_eq_some_iff.1 served
    obtain ⟨r'', restarted, he⟩ := Option.bind_eq_some_iff.1 hs
    cases he
    obtain rfl : r = r' := Option.some.inj (hr.symm.trans hr')
    obtain rfl : r'' = s' := by simpa [Catalog.setSequence] using hs'
    obtain ⟨increment', next'⟩ := Sequence.restart_eq restarted
    rw [increment', next', hi]
    exact beyond.of_bounded (bounded k (reads column ▸ hk))
  · rw [if_neg restarts]
    refine working.settled fun name' s' ho hs' k hk => ?_
    obtain rfl : name = name' := Option.some.inj (owned.symm.trans ho)
    obtain ⟨-, r, hr, hi, hn⟩ := held
    obtain rfl : r = s' := Option.some.inj (hr.symm.trans hs')
    rw [hi, hn, ← not_not.1 restarts]
    exact beyond.of_bounded (bounded k hk)

theorem advanceColumn_meets (h : Working done column t) :
    Catalog.world.Meets (fun t _ => Settled (column :: done) t) t (advanceColumn column) := by
  refine World.Meets.bind ((ownedSequenceSettings_meets h).mono fun t₀ r ⟨working, known⟩ => ?_)
  obtain ⟨name, increment⟩ := r
  -- the boundary before the lock
  refine World.Meets.call_bind (keeps_working.and keeps_known) ⟨working, known⟩
    fun t₁ loaded t₂ ⟨working, known⟩ served => ?_
  have served := answers_ok.1 served
  obtain ⟨none, some⟩ := serve_boundary served
  replace working := working.served served nofun (fun _ _ e => (Call.boundary.inj e).2.symm)
  replace known := known.served served nofun
  cases loaded with
  | none =>
    refine working.settled fun name s _ _ k hk => ?_
    rw [none rfl] at hk
    cases hk
  | some loadedBoundary =>
    have bounded : Bounded column increment loadedBoundary t₂ := some loadedBoundary rfl
    -- the first `nextval`
    refine World.Meets.call_bind ((keeps_working.and keeps_known).and keeps_bounded)
      ⟨⟨working, known⟩, bounded⟩ fun t₃ nextValue t₄ ⟨⟨working, known⟩, bounded⟩ served => ?_
    have served := answers_ok.1 served
    have working' := working.served served nofun nofun
    have known' := known.served served nofun
    by_cases enough : (increment > 0 ∧ loadedBoundary ≤ nextValue) ∨
        (increment < 0 ∧ loadedBoundary ≥ nextValue)
    · rw [if_pos enough]
      refine working'.settled fun name' s' ho hs' k hk => ?_
      obtain ⟨owned, s, hs, hi⟩ := known
      obtain ⟨s₀, s₁, h₀, -, increment', next, rfl⟩ := Catalog.nextval_eq served
      obtain rfl : name = name' := Option.some.inj (owned.symm.trans ho)
      obtain rfl : s = s₀ := Option.some.inj (hs.symm.trans h₀)
      obtain rfl : s₁ = s' := by simpa [Catalog.setSequence] using hs'
      have key := bounded k hk
      rw [increment', next, hi]
      unfold NotBefore at key
      unfold Beyond
      omega
    · rw [if_neg enough]
      refine World.Meets.call_bind (keeps_working.and keeps_known) ⟨working', known'⟩
        fun t₅ owner t₆ ⟨working, known⟩ served => ?_
      have served := answers_ok.1 served
      replace working := working.served served nofun nofun
      replace known := known.served served nofun
      cases owner with
      | none => trivial
      | some mine =>
        cases mine with
        | false => trivial
        | true => exact advanceLocked_meets working known

theorem advanceOwnedSequences_meets (columns : List String) (h : Settled done t) :
    Catalog.world.Meets (fun t _ => Settled (columns.reverse ++ done) t) t
      (advanceOwnedSequences columns) := by
  induction columns generalizing done t with
  | nil => exact h
  | cons column rest ih =>
    refine World.Meets.bind ((advanceColumn_meets h.working).mono fun t₁ _ settled => ?_)
    have next := ih settled
    rwa [List.reverse_cons, List.append_assoc]

end Meets

/-- **An advance never hands out a used key**: whatever other sessions do before, during and after, once
`_advance_owned_sequences` has returned, each value that `nextval` returns from the sequence of one of
its columns lies strictly beyond the keys of the column in the destination and staging tables, as the
function read them last, and strictly beyond every value that was returned before. -/
theorem advanced_sequences_never_reuse_keys (columns : List String) (t₀ t : Catalog)
    (fresh : ∀ name, t₀.returned name = [])
    (run : Catalog.world.Steps (t₀, advanceOwnedSequences columns) (t, .pure ()))
    (column : String) (advanced : column ∈ columns) (name : String) (s : Sequence)
    (owned : t.owned column = some name) (hs : t.sequences name = some s)
    (value : Int) (t' : Catalog) (later : t.nextval name = some (value, t')) :
    (∀ key ∈ t.lastRead column, Beyond s.increment value key) ∧
      ∀ used ∈ t.returned name, Beyond s.increment value used := by
  have start : Settled [] t₀ := by
    refine ⟨fun n _ _ v hv => ?_, nofun⟩
    rw [fresh n] at hv
    cases hv
  have ends (t t' : Catalog) (_ : Unit) (released : Catalog.world.Ends t t')
      (h : Settled (columns.reverse ++ []) t) : Settled (columns.reverse ++ []) t' := by
    cases released
    have onward : Onward t { t with locked := fun _ => false } := .of_same rfl rfl rfl
    exact onward.settled rfl h
  have settled : Settled (columns.reverse ++ []) t :=
    World.Meets.steps (fun _ => keeps_settled) ends (advanceOwnedSequences_meets columns start) run
  obtain ⟨r, -, hr, rfl, -⟩ := Catalog.nextval_eq later
  obtain rfl : r = s := Option.some.inj (hr.symm.trans hs)
  exact ⟨settled.passed column (by simpa using advanced) name r owned hs,
    settled.ordered name r hs⟩

/-! ## A run with a restart -/

/-- Answer the first statements of a program. -/
def Catalog.play {α : Type} :
    Nat → Catalog → Program Call.Answer Exn α → Catalog × Program Call.Answer Exn α
  | n + 1, t, .request c next =>
    match t.serve c with
    | some (a, t') => play n t' (next (.ok a))
    | none => (t, .request c next)
  | _, t, p => (t, p)

theorem Catalog.steps_play {α : Type} (n : Nat) (t : Catalog) (p : Program Call.Answer Exn α) :
    Catalog.world.Steps (t, p) (Catalog.play n t p) := by
  induction n generalizing t p with
  | zero => cases p <;> exact .refl
  | succ n ih =>
    cases p with
    | pure a => exact .refl
    | throw e => exact .refl
    | request c next =>
      rw [Catalog.play]
      cases served : t.serve c with
      | none => exact .refl
      | some r => exact .head (.answer (Catalog.answers_ok.2 served)) (ih r.2 (next (.ok r.1)))

/-- A fresh sequence, behind the keys of a table and of its staged rows. -/
def Catalog.sample : Catalog where
  owned _ := some "events_id_seq"
  sequences _ := some ⟨1, 1, 100, 1, 1, false, by decide⟩
  canUpdate _ := true
  isOwner _ := true
  destination _ := [some 5, none]
  staging _ := [some 7]
  locked _ := false
  returned _ := []
  lastRead _ := []

/-- The database after the function has returned. -/
def Catalog.sampleAfter : Catalog :=
  (Catalog.play 9 Catalog.sample (advanceOwnedSequences ["id"])).1

theorem advanced_sequences_never_reuse_keys_events :
    (∀ key ∈ Catalog.sampleAfter.lastRead "id", Beyond 1 8 key) ∧
      ∀ used ∈ Catalog.sampleAfter.returned "events_id_seq", Beyond 1 8 used :=
  advanced_sequences_never_reuse_keys ["id"] .sample .sampleAfter (fun _ => rfl)
    (Catalog.steps_play 9 .sample (advanceOwnedSequences ["id"])) "id" List.mem_cons_self
    "events_id_seq" ⟨1, 1, 100, 1, 8, false, by decide⟩ rfl rfl 8 _ rfl

end DataMover.Sequences
