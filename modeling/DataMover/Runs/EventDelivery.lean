import DataMover.Runs.EventCounting

/-!
# The event feed delivers every event once

The committed events of a run carry the sequences from 1 up to its committed counter (`Consistent`):
whoever has counted holds the lock on the run until all of its sequences are committed together.  A
reader that asks for what follows its cursor therefore never skips an event (`events_delivered_once`).
-/

namespace DataMover

open ReadCommitted Program Transition

namespace EventFeed

/-! ## Sequences -/

theorem foldl_max_range' (k n : Nat) : (List.range' (k + 1) n).foldl max k = k + n := by
  induction n generalizing k with
  | zero => rfl
  | succ n ih =>
    rw [List.range'_succ, List.foldl_cons, Nat.max_eq_right (by omega), ih]
    omega

theorem largest_eq {k n : Nat} {events : List EventRow}
    (h : events.map (fun event => event.sequence) = List.range' (k + 1) n) :
    largest k events = k + n := by
  rw [← foldl_max_range', ← h, List.foldl_map]
  rfl

theorem mem_ordered {event : EventRow} {rows : List EventRow} :
    event ∈ ordered rows ↔ event ∈ rows :=
  List.mem_insertionSort _

/-- Rows whose sequences are a range are put in its order. -/
theorem map_sequence_ordered {k n : Nat} {rows : List EventRow} (nodup : rows.Nodup)
    (distinct : ∀ a ∈ rows, ∀ b ∈ rows, a.sequence = b.sequence → a = b)
    (range : ∀ m, (∃ event ∈ rows, event.sequence = m) ↔ k < m ∧ m ≤ k + n) :
    (ordered rows).map (fun event => event.sequence) = List.range' (k + 1) n := by
  have perm : ((ordered rows).map fun event => event.sequence).Perm
      (rows.map fun event => event.sequence) := (List.perm_insertionSort _ rows).map _
  have sorted : ((ordered rows).map fun event => event.sequence).Pairwise (· ≤ ·) := by
    have total : Std.Total fun a b : EventRow => a.sequence ≤ b.sequence :=
      ⟨fun a b => Nat.le_total _ _⟩
    have trans : IsTrans EventRow fun a b => a.sequence ≤ b.sequence :=
      ⟨fun a b c => Nat.le_trans⟩
    rw [List.pairwise_map]
    exact List.pairwise_insertionSort _ rows
  have same : (rows.map fun event => event.sequence).Perm (List.range' (k + 1) n) := by
    refine (List.perm_ext_iff_of_nodup (nodup.map_on distinct) List.nodup_range').2 fun m => ?_
    rw [List.mem_map, range, List.mem_range'_1]
    omega
  refine (perm.trans same).eq_of_pairwise (fun a b _ _ ab ba => Nat.le_antisymm ab ba) sorted ?_
  exact List.pairwise_le_range'

/-! ## The invariant -/

/-- The committed counter of a run. -/
def counterOf (db : Db schema) (runId : String) : Nat :=
  match (show Option RunRow from (db.cell ⟨.runs, runId⟩).committed) with
  | some run => run.nextEventSequence
  | none => 0

/-- The committed events of each run carry the sequences from 1 to its counter, each once. -/
structure Consistent (db : Db schema) : Prop where
  range : ∀ k, ∀ event : EventRow, (db.cell ⟨.events, k⟩).committed = some event →
    1 ≤ event.sequence ∧ event.sequence ≤ counterOf db event.runId
  full : ∀ runId n, 1 ≤ n → n ≤ counterOf db runId → ∃ k, ∃ event : EventRow,
    (db.cell ⟨.events, k⟩).committed = some event ∧ event.runId = runId ∧ event.sequence = n
  distinct : ∀ k k', ∀ a b : EventRow, (db.cell ⟨.events, k⟩).committed = some a →
    (db.cell ⟨.events, k'⟩).committed = some b → a.runId = b.runId → a.sequence = b.sequence → k = k'

/-- What is true of a thread with its view. -/
structure Knows (db : Db schema) (i : Nat) (v : FeedView) : Prop where
  sane : v.Sane
  counter : ∀ runId b m, v.counter runId = some (b, m) → b = counterOf db runId ∧ b ≤ m ∧
    ∃ run : RunRow, (db.cell ⟨.runs, runId⟩).held i = some run ∧ run.nextEventSequence = m
  unlocked : ∀ runId, v.counter runId = none → (db.cell ⟨.runs, runId⟩).held i = none
  inserted : ∀ k, ∀ event : EventRow, (db.cell ⟨.events, k⟩).held i = some event ↔
    event ∈ v.inserted ∧ event.id = k
  new : ∀ k, (db.cell ⟨.events, k⟩).held i ≠ none → (db.cell ⟨.events, k⟩).committed = none
  numbers : ∀ runId, (v.insertedOf runId).map (fun event => event.sequence) =
    List.range' (v.base runId + 1) (v.insertedOf runId).length
  le : ∀ runId, v.base runId + (v.insertedOf runId).length ≤ v.top runId
  delivered : v.delivered.map (fun event => event.sequence) = List.range' 1 v.delivered.length
  committed : ∀ event ∈ v.delivered, (db.cell ⟨.events, event.id⟩).committed = some event ∧
    event.runId = v.call.runId
  le_counter : v.delivered.length ≤ counterOf db v.call.runId

structure Inv (db : Db schema) (views : List FeedView) : Prop where
  consistent : Consistent db
  nodup : (db.keys .events).Nodup
  knows : ∀ i v, views[i]? = some v → Knows db i v
  absent : ∀ i, views[i]? = none → ∀ a, (db.cell a).held i = none

section Invariant

variable {db db' : Db schema} {views : List FeedView} {i j : Nat} {v w : FeedView} {runId : String}

theorem counterOf_eq {run : RunRow} (h : (db.cell ⟨.runs, runId⟩).committed = some run) :
    counterOf db runId = run.nextEventSequence := by
  rw [counterOf, h]

theorem counterOf_congr
    (h : (db'.cell ⟨.runs, runId⟩).committed = (db.cell ⟨.runs, runId⟩).committed) :
    counterOf db' runId = counterOf db runId := by
  rw [counterOf, h, counterOf]

/-- A thread that starts. -/
theorem knows_start {call : FeedCall} (h : ∀ a, (db.cell a).held i = none) :
    Knows db i { call := call } where
  sane := trivial
  counter := nofun
  unlocked _ _ := h _
  inserted k event := by
    rw [h]
    exact ⟨nofun, fun mem => nomatch mem.1⟩
  new k held := absurd (h _) held
  numbers _ := rfl
  le _ := Nat.le_refl 0
  delivered := rfl
  committed := nofun
  le_counter := Nat.zero_le _

/-- The transaction of the thread is over. -/
theorem Knows.ended (h : Knows db i v) (free : ∀ a, (db'.cell a).held i = none)
    (events : ∀ k, ∀ event : EventRow, (db.cell ⟨.events, k⟩).committed = some event →
      (db'.cell ⟨.events, k⟩).committed = some event)
    (grows : ∀ runId, counterOf db runId ≤ counterOf db' runId) : Knows db' i v.ended where
  sane := h.sane
  counter := nofun
  unlocked _ _ := free _
  inserted k event := by
    rw [free]
    exact ⟨nofun, fun mem => nomatch mem.1⟩
  new k held := absurd (free _) held
  numbers _ := rfl
  le _ := Nat.le_refl 0
  delivered := h.delivered
  committed event mem := ⟨events _ _ (h.committed event mem).1, (h.committed event mem).2⟩
  le_counter := h.le_counter.trans (grows _)

/-- A step that leaves the locks of the thread alone. -/
theorem Knows.frame (h : Knows db i v) (held : ∀ a, (db'.cell a).held i = (db.cell a).held i)
    (locked : ∀ a, (db.cell a).held i ≠ none → (db'.cell a).committed = (db.cell a).committed)
    (events : ∀ k, ∀ event : EventRow, (db.cell ⟨.events, k⟩).committed = some event →
      (db'.cell ⟨.events, k⟩).committed = some event)
    (grows : ∀ runId, counterOf db runId ≤ counterOf db' runId) : Knows db' i v where
  sane := h.sane
  counter runId b m hc := by
    obtain ⟨base, le, run, hr, top⟩ := h.counter runId b m hc
    refine ⟨base.trans (counterOf_congr (locked _ ?_)).symm, le, run, (held _).trans hr, top⟩
    rw [hr]
    exact Option.some_ne_none run
  unlocked runId hc := (held _).trans (h.unlocked runId hc)
  inserted k event := by
    rw [held]
    exact h.inserted k event
  new k hk := by
    rw [held] at hk
    rw [locked _ hk]
    exact h.new k hk
  numbers := h.numbers
  le := h.le
  delivered := h.delivered
  committed event mem := ⟨events _ _ (h.committed event mem).1, (h.committed event mem).2⟩
  le_counter := h.le_counter.trans (grows _)

/-- A reader without writes finds the committed events. -/
theorem mem_events (clear : ∀ k, (db.cell ⟨.events, k⟩).held i = none) {q : EventQuery}
    {event : EventRow} : event ∈ db.rows i .events q ↔
      (db.cell ⟨.events, event.id⟩).committed = some event ∧ event.runId = q.runId ∧
        q.afterSequence < event.sequence := by
  refine Db.mem_rows.trans (and_congr ?_ decide_eq_true_iff)
  rw [Cell.visible_of_not_held (clear _)]
  exact Iff.rfl

/-- A poll returns exactly the sequences from the cursor up to the committed counter. -/
theorem Consistent.polled (h : Consistent db) (nodup : (db.keys .events).Nodup)
    (clear : ∀ k, (db.cell ⟨.events, k⟩).held i = none) (q : EventQuery) :
    (ordered (db.rows i .events q)).map (fun event => event.sequence) =
      List.range' (q.afterSequence + 1) (counterOf db q.runId - q.afterSequence) := by
  refine map_sequence_ordered (Db.nodup_rows nodup) ?_ ?_
  · intro a ha b hb same
    obtain ⟨ca, ra, -⟩ := (mem_events clear).1 ha
    obtain ⟨cb, rb, -⟩ := (mem_events clear).1 hb
    have key := h.distinct a.id b.id a b ca cb (ra.trans rb.symm) same
    rw [key, cb] at ca
    exact (Option.some.inj ca).symm
  · intro m
    constructor
    · rintro ⟨event, mem, rfl⟩
      obtain ⟨committed, run, later⟩ := (mem_events clear).1 mem
      have range := (h.range _ event committed).2
      rw [run] at range
      omega
    · intro bounds
      obtain ⟨k, event, committed, run, number⟩ := h.full q.runId m (by omega) (by omega)
      have key : event.id = k := Db.key_of_committed committed
      rw [← key] at committed
      exact ⟨event, (mem_events clear).2 ⟨committed, run, by omega⟩, number⟩

/-- What a reader knows after a poll. -/
theorem Knows.polled (h : Knows db i v) (consistent : Consistent db)
    (nodup : (db.keys .events).Nodup) (inserted : v.inserted = []) :
    let rows := db.rows i .events (⟨v.call.runId, largest 0 v.delivered⟩ : EventQuery)
    Knows db i { v with delivered := v.delivered ++ ordered rows } ∧
      (v.delivered ++ ordered rows).length = counterOf db v.call.runId := by
  intro rows
  have clear : ∀ k, (db.cell ⟨.events, k⟩).held i = none := by
    intro k
    refine Option.eq_none_iff_forall_ne_some.2 fun event held => ?_
    have mem := ((h.inserted k event).1 held).1
    rw [inserted] at mem
    cases mem
  have cursor : largest 0 v.delivered = v.delivered.length := by
    rw [largest_eq (k := 0) h.delivered, Nat.zero_add]
  have le := h.le_counter
  have numbers : (ordered rows).map (fun event => event.sequence) = _ :=
    consistent.polled nodup clear ⟨v.call.runId, largest 0 v.delivered⟩
  dsimp only at numbers
  have last : (v.delivered ++ ordered rows).length = counterOf db v.call.runId := by
    have found := congrArg List.length numbers
    rw [List.length_map, List.length_range', cursor] at found
    rw [List.length_append, found]
    omega
  refine ⟨{ h with delivered := ?_, committed := ?_, le_counter := last.le }, last⟩
  · change (v.delivered ++ ordered rows).map _ = List.range' 1 (v.delivered ++ ordered rows).length
    rw [List.map_append, h.delivered, numbers, cursor, last, Nat.add_comm v.delivered.length 1,
      List.range'_append_1]
    congr 1
    omega
  · intro event mem
    rcases List.mem_append.1 mem with old | found
    · exact h.committed event old
    · obtain ⟨committed, run, -⟩ := (mem_events clear).1 (mem_ordered.1 found)
      exact ⟨committed, run⟩

theorem FeedView.insertedOf_wrote (other : String) (before now : Nat) :
    (v.wrote runId before now).insertedOf other = v.insertedOf other := rfl

/-- A thread has inserted no event of a run that it has not locked. -/
theorem Knows.of_none (h : Knows db i v) (hc : v.counter runId = none) :
    v.insertedOf runId = [] := by
  have le := h.le runId
  rw [FeedView.top, hc] at le
  have length : (v.insertedOf runId).length = 0 := by
    change v.base runId + _ ≤ 0 at le
    omega
  exact List.length_eq_zero_iff.1 length

/-- The thread writes the row of a run. -/
theorem Knows.wrote (h : Knows db i v) {run : RunRow} {before : Nat} (key : run.id = runId)
    (grows : ∀ b m, v.counter runId = some (b, m) → m ≤ run.nextEventSequence)
    (first : v.counter runId = none →
      before = counterOf db runId ∧ before ≤ run.nextEventSequence) :
    Knows (db.write i .runs run) i (v.wrote runId before run.nextEventSequence) := by
  subst key
  have elsewhere : ∀ other, other ≠ run.id → (⟨.runs, other⟩ : Addr schema) ≠ ⟨.runs, run.id⟩ :=
    fun other ne same => ne (by cases same; rfl)
  have counters : ∀ other, counterOf (db.write i .runs run) other = counterOf db other :=
    fun other => counterOf_congr (Db.committed_write _)
  have own : ((db.write i .runs run).cell ⟨.runs, run.id⟩).held i = some run :=
    Db.held_write db i .runs run
  have others : ∀ k, (db.write i .runs run).cell ⟨.events, k⟩ = db.cell ⟨.events, k⟩ :=
    fun k => Db.cell_write_of_ne (by rintro ⟨⟩)
  refine { h with counter := ?_, unlocked := ?_, inserted := ?_, new := ?_, numbers := ?_, le := ?_,
                  committed := ?_, le_counter := ?_ }
  · intro other b m hc
    rw [counters]
    by_cases same : other = run.id
    · subst same
      rw [FeedView.counter_wrote] at hc
      cases hc
      cases hc : v.counter run.id with
      | none =>
        obtain ⟨base, le⟩ := first hc
        exact ⟨base, le, run, own, rfl⟩
      | some c =>
        obtain ⟨base, le, -⟩ := h.counter _ c.1 c.2 hc
        exact ⟨base, le.trans (grows c.1 c.2 hc), run, own, rfl⟩
    · rw [FeedView.counter_wrote_of_ne _ _ same] at hc
      rw [Db.cell_write_of_ne (elsewhere other same)]
      exact h.counter other b m hc
  · intro other hc
    by_cases same : other = run.id
    · subst same
      rw [FeedView.counter_wrote] at hc
      cases hc
    · rw [FeedView.counter_wrote_of_ne _ _ same] at hc
      rw [Db.cell_write_of_ne (elsewhere other same)]
      exact h.unlocked other hc
  · intro k event
    rw [others]
    exact h.inserted k event
  · intro k
    rw [others]
    exact h.new k
  · intro other
    have before := h.numbers other
    by_cases same : other = run.id
    · subst same
      cases hc : v.counter run.id with
      | none =>
        rw [FeedView.insertedOf_wrote, h.of_none hc]
        rfl
      | some c =>
        rw [v.base_of_some hc] at before
        rw [FeedView.base_wrote, hc]
        exact before
    · rw [FeedView.base_wrote_of_ne _ _ same]
      exact before
  · intro other
    have before := h.le other
    by_cases same : other = run.id
    · subst same
      rw [FeedView.base_wrote, FeedView.top_wrote]
      cases hc : v.counter run.id with
      | none =>
        rw [FeedView.insertedOf_wrote, h.of_none hc]
        exact (first hc).2
      | some c =>
        rw [v.base_of_some hc, v.top_of_some hc] at before
        exact before.trans (grows c.1 c.2 hc)
    · rw [FeedView.base_wrote_of_ne _ _ same, FeedView.top_wrote_of_ne _ _ same]
      exact before
  · intro event mem
    rw [others]
    exact h.committed event mem
  · rw [counters]
    exact h.le_counter

/-- The thread inserts the next event of a run that it has locked. -/
theorem Knows.inserts (h : Knows db i v) {event : EventRow} {b m : Nat}
    (hc : v.counter event.runId = some (b, m))
    (next : event.sequence = b + 1 + (v.insertedOf event.runId).length) (le : event.sequence ≤ m)
    (empty : db.cell ⟨.events, event.id⟩ = {}) :
    Knows (db.write i .events event) i { v with inserted := v.inserted ++ [event] } := by
  have own : ((db.write i .events event).cell ⟨.events, event.id⟩).held i = some event :=
    Db.held_write db i .events event
  have elsewhere : ∀ k, k ≠ event.id →
      (db.write i .events event).cell ⟨.events, k⟩ = db.cell ⟨.events, k⟩ :=
    fun k ne => Db.cell_write_of_ne fun same => ne (by cases same; rfl)
  have runs : ∀ k, (db.write i .events event).cell ⟨.runs, k⟩ = db.cell ⟨.runs, k⟩ :=
    fun k => Db.cell_write_of_ne (by rintro ⟨⟩)
  have counters : ∀ other, counterOf (db.write i .events event) other = counterOf db other :=
    fun other => counterOf_congr (Db.committed_write _)
  have committed : ∀ a, ((db.write i .events event).cell a).committed = (db.cell a).committed :=
    fun a => Db.committed_write a
  have base : ({ v with inserted := v.inserted ++ [event] } : FeedView).base event.runId = b :=
    v.base_of_some hc
  have absent : ∀ e ∈ v.inserted, e.id ≠ event.id := by
    intro e mem same
    have held := (h.inserted event.id e).2 ⟨mem, same⟩
    rw [empty] at held
    cases held
  have insertedOf : ∀ other, ({ v with inserted := v.inserted ++ [event] } : FeedView).insertedOf
      other = v.insertedOf other ++ if event.runId = other then [event] else [] := by
    intro other
    unfold FeedView.insertedOf
    rw [List.filter_append, List.filter_singleton]
    by_cases same : event.runId = other
    · simp [same]
    · simp [same]
  refine { h with counter := ?_, unlocked := ?_, inserted := ?_, new := ?_, numbers := ?_, le := ?_,
                  committed := ?_, le_counter := ?_ }
  · intro other
    rw [counters, runs]
    exact h.counter other
  · intro other
    rw [runs]
    exact h.unlocked other
  · intro k e
    by_cases same : k = event.id
    · subst same
      rw [own]
      constructor
      · rintro ⟨⟩
        exact ⟨List.mem_append_right _ List.mem_cons_self, rfl⟩
      · rintro ⟨mem, key⟩
        rcases List.mem_append.1 mem with old | new
        · exact absurd key (absent e old)
        · rw [List.mem_singleton.1 new]
    · rw [elsewhere k same, h.inserted k e]
      refine and_congr_left fun key => ?_
      rw [List.mem_append, List.mem_singleton]
      exact ⟨.inl, fun mem => mem.resolve_right fun new => same (by rw [← key, new])⟩
  · intro k held
    rw [committed]
    by_cases same : k = event.id
    · rw [same, empty]
    · rw [elsewhere k same] at held
      exact h.new k held
  · intro other
    rw [insertedOf, List.map_append, h.numbers]
    by_cases same : event.runId = other
    · subst same
      rw [if_pos rfl, List.map_singleton, List.length_append, List.length_singleton,
        List.range'_concat, next, base, v.base_of_some hc]
      congr 2
      omega
    · rw [if_neg same, List.map_nil, List.append_nil, List.append_nil]
      rfl
  · intro other
    have before := h.le other
    rw [insertedOf]
    by_cases same : event.runId = other
    · subst same
      rw [v.base_of_some hc, v.top_of_some hc] at before
      rw [if_pos rfl, List.length_append, List.length_singleton]
      change v.base event.runId + _ ≤ v.top event.runId
      rw [v.base_of_some hc, v.top_of_some hc]
      omega
    · rw [if_neg same, List.append_nil]
      exact before
  · intro e mem
    rw [committed]
    exact h.committed e mem
  · rw [counters]
    exact h.le_counter

theorem Knows.observed {s : FeedStmt} {answer : s.Answer} {now : Time} {fresh : String}
    (h : Knows db i v) (noted : Knows db' i (v.note s answer)) (possible : v.Possible s answer) :
    Knows db' i (v.observe s (.ok ⟨answer, now, fresh⟩)) :=
  { noted with sane := ⟨h.sane, possible⟩ }

/-- What a thread sees of a run. -/
theorem Knows.seen (h : Knows db i v) {run : RunRow}
    (seen : (db.cell ⟨.runs, runId⟩).visible i = some run) :
    (∀ b m, v.counter runId = some (b, m) → run.nextEventSequence = m) ∧
      (v.counter runId = none → run.nextEventSequence = counterOf db runId) := by
  constructor
  · intro b m hc
    obtain ⟨-, -, own, held, top⟩ := h.counter runId b m hc
    rw [Cell.visible_of_held held] at seen
    cases seen
    exact top
  · intro hc
    rw [Cell.visible_of_not_held (h.unlocked runId hc)] at seen
    exact (counterOf_eq seen).symm

/-- The thread writes the row of a run that it sees. -/
theorem Knows.updates (h : Knows db i v) {q : RunQuery} {change : RunChange} {run : RunRow}
    (seen : (db.cell ⟨.runs, runId⟩).visible i = some run)
    (allowed : v.Relies (.update .runs runId q change)) :
    Knows (db.write i .runs (change.apply run)) i
        (v.note (.update .runs runId q change) (some (change.apply run))) ∧
      v.Possible (.update .runs runId q change) (some (change.apply run)) := by
  obtain ⟨same, first⟩ := h.seen seen
  have key : (change.apply run).id = runId :=
    (RunChange.id_apply run change).trans (Db.key_of_visible seen)
  refine ⟨?_, ?_⟩
  · cases change with
    | increment =>
      refine h.wrote key (fun b m hc => ?_) fun hc => ?_
      · rw [RunChange.counter_apply, ← same b m hc]
        exact Nat.le_succ _
      · rw [RunChange.counter_apply, ← first hc]
        exact ⟨rfl, Nat.le_succ _⟩
    | sequence n =>
      obtain ⟨b, hb⟩ := allowed
      refine h.wrote key (fun b' m hc => ?_) fun hc => ?_
      · rw [hb] at hc
        cases hc
        exact Nat.le_refl _
      · rw [hb] at hc
        cases hc
    | columns status stage =>
      exact h.wrote key (fun b m hc => (same b m hc).ge) fun hc => ⟨first hc, Nat.le_refl _⟩
  · rintro run' ⟨⟩
    exact ⟨run.nextEventSequence, RunChange.counter_apply run change, same⟩

/-- What a thread knows after an answer within its transaction. -/
theorem Knows.answered (h : Knows db i v) (consistent : Consistent db)
    (nodup : (db.keys .events).Nodup) {s : FeedStmt} {answer : s.Answer} {now : Time}
    {fresh : String} (allowed : v.Relies s) (he : db.exec i s = some (answer, db'))
    (commit : s ≠ .commit) (rollback : s ≠ .rollback) :
    Knows db' i (v.observe s (.ok ⟨answer, now, fresh⟩)) := by
  cases s with
  | select t q =>
    cases he
    cases t with
    | runs =>
      refine h.observed h fun run found => ?_
      obtain ⟨seen, holds⟩ := Db.mem_rows.1 found
      exact ⟨holds, (h.seen seen).1⟩
    | events =>
      obtain ⟨rfl, inserted⟩ := allowed
      exact h.observed (h.polled consistent nodup inserted).1 trivial
  | lock t k q =>
    obtain rfl : t = .runs := allowed
    rcases Db.writeWhen_cases he with ⟨rfl, rfl, -⟩ | ⟨run, seen, -, -, rfl, rfl⟩
    · exact h.observed h nofun
    · obtain ⟨same, first⟩ := h.seen seen
      refine h.observed (h.wrote (Db.key_of_visible seen) (fun b m hc => (same b m hc).ge)
        fun hc => ⟨first hc, Nat.le_refl _⟩) ?_
      rintro run' ⟨⟩
      exact same
  | update t k q change =>
    cases t with
    | runs =>
      rcases Db.writeWhen_cases he with ⟨rfl, rfl, -⟩ | ⟨run, seen, -, -, rfl, rfl⟩
      · refine h.observed ?_ nofun
        exact (note_missed (v := v) (q := q) (c := change) rfl).symm ▸ h
      · obtain ⟨knows, possible⟩ := h.updates seen allowed
        exact h.observed knows possible
    | events => exact nomatch change
  | insert t row =>
    rcases Db.insert_cases he with ⟨rfl, rfl⟩ | ⟨rfl, rfl, empty, -⟩
    · cases t with
      | runs => exact h.observed h nofun
      | events => exact h.observed h trivial
    · cases t with
      | runs =>
        have notHeld : v.counter (RunRow.id row) = none := by
          refine Option.eq_none_iff_forall_ne_some.2 fun c hc => ?_
          obtain ⟨-, -, own, held, -⟩ := h.counter _ c.1 c.2 hc
          rw [show db.cell ⟨.runs, RunRow.id row⟩ = {} from empty] at held
          cases held
        have start : RunRow.nextEventSequence row = 0 := allowed
        have counter : counterOf db (RunRow.id row) = 0 := by
          rw [counterOf, show db.cell ⟨.runs, RunRow.id row⟩ = {} from empty]
        have wrote : Knows (db.write i .runs row) i
            (v.wrote (RunRow.id row) 0 (RunRow.nextEventSequence row)) := h.wrote rfl
          (fun b m hc => by rw [notHeld] at hc; cases hc) fun _ => ⟨counter.symm, Nat.zero_le _⟩
        rw [start] at wrote
        exact h.observed wrote fun _ => notHeld
      | events =>
        obtain ⟨b, m, hc, next, le⟩ := allowed
        exact h.observed (h.inserts hc next le empty) trivial
  | commit => exact absurd rfl commit
  | rollback => exact absurd rfl rollback

/-! ## Commit -/

/-- The counter of a run after the thread has committed. -/
theorem Knows.counterOf_commit (h : Knows db i v) (runId : String) :
    counterOf (db.commit i) runId =
      if v.counter runId = none then counterOf db runId else v.top runId := by
  cases hc : v.counter runId with
  | none =>
    rw [if_pos rfl]
    refine counterOf_congr ?_
    rw [Db.cell_commit, Cell.committed_commit, Cell.visible_of_not_held (h.unlocked runId hc)]
  | some c =>
    obtain ⟨-, -, run, held, top⟩ := h.counter runId c.1 c.2 hc
    rw [if_neg (Option.some_ne_none c), v.top_of_some hc, ← top]
    refine counterOf_eq ?_
    rw [Db.cell_commit, Cell.committed_commit]
    exact Cell.visible_of_held held

theorem Knows.counterOf_le_commit (h : Knows db i v) (runId : String) :
    counterOf db runId ≤ counterOf (db.commit i) runId := by
  rw [h.counterOf_commit]
  split_ifs with hc
  · exact Nat.le_refl _
  · obtain ⟨c, hc⟩ := Option.ne_none_iff_exists'.1 hc
    obtain ⟨base, le, -⟩ := h.counter runId c.1 c.2 hc
    rw [v.top_of_some hc, ← base]
    exact le

/-- A committed event is an old one or an inserted one. -/
theorem Knows.committed_commit (h : Knows db i v) {k : String} {event : EventRow} :
    ((db.commit i).cell ⟨.events, k⟩).committed = some event ↔
      (db.cell ⟨.events, k⟩).committed = some event ∨ event ∈ v.inserted ∧ event.id = k := by
  rw [Db.cell_commit, Cell.committed_commit, ← h.inserted]
  cases held : (db.cell ⟨.events, k⟩).held i with
  | none =>
    rw [Cell.visible_of_not_held held]
    exact ⟨.inl, fun either => either.resolve_right nofun⟩
  | some e =>
    rw [Cell.visible_of_held held, h.new k (held ▸ Option.some_ne_none e)]
    exact ⟨.inr, fun either => either.resolve_left nofun⟩

/-- The sequences of the inserted events of a run follow its committed counter. -/
theorem Knows.sequence_iff (h : Knows db i v) {n : Nat} :
    (∃ event ∈ v.inserted, event.runId = runId ∧ event.sequence = n) ↔
      v.base runId < n ∧ n ≤ v.base runId + (v.insertedOf runId).length := by
  have mem : n ∈ (v.insertedOf runId).map (fun event => event.sequence) ↔
      v.base runId < n ∧ n ≤ v.base runId + (v.insertedOf runId).length := by
    rw [h.numbers, List.mem_range'_1]
    omega
  rw [← mem]
  simp only [List.mem_map, FeedView.insertedOf, List.mem_filter, decide_eq_true_eq, and_assoc]

/-- The inserted events of a run that is locked fill the gap up to its new counter. -/
theorem Knows.fills (h : Knows db i v) (allowed : v.Relies .commit) {n : Nat} :
    (∃ event ∈ v.inserted, event.runId = runId ∧ event.sequence = n) ↔
      counterOf db runId < n ∧ n ≤ counterOf (db.commit i) runId := by
  rw [h.sequence_iff, h.counterOf_commit]
  cases hc : v.counter runId with
  | none =>
    rw [h.of_none hc, if_pos rfl, List.length_nil]
    omega
  | some c =>
    have complete := allowed runId c.1 c.2 hc
    obtain ⟨base, -⟩ := h.counter runId c.1 c.2 hc
    rw [if_neg (Option.some_ne_none c), v.base_of_some hc, v.top_of_some hc, complete, base]

theorem Consistent.commit (consistent : Consistent db) (h : Knows db i v)
    (allowed : v.Relies .commit) : Consistent (db.commit i) where
  range k event committed := by
    rcases h.committed_commit.1 committed with old | ⟨new, -⟩
    · obtain ⟨low, high⟩ := consistent.range k event old
      exact ⟨low, high.trans (h.counterOf_le_commit _)⟩
    · have bounds := (h.fills allowed).1 ⟨event, new, rfl, rfl⟩
      exact ⟨by omega, bounds.2⟩
  full runId n low high := by
    by_cases before : n ≤ counterOf db runId
    · obtain ⟨k, event, committed, run, number⟩ := consistent.full runId n low before
      exact ⟨k, event, h.committed_commit.2 (.inl committed), run, number⟩
    · obtain ⟨event, mem, run, number⟩ := (h.fills allowed).2 ⟨by omega, high⟩
      exact ⟨event.id, event, h.committed_commit.2 (.inr ⟨mem, rfl⟩), run, number⟩
  distinct k k' a b ha hb run number := by
    have mixed : ∀ k, ∀ a b : EventRow, (db.cell ⟨.events, k⟩).committed = some a →
        b ∈ v.inserted → a.runId = b.runId → a.sequence = b.sequence → False := by
      intro k a b old new run number
      have high := (consistent.range k a old).2
      have low := ((h.fills allowed).1 ⟨b, new, rfl, rfl⟩).1
      rw [← run, ← number] at low
      omega
    rcases h.committed_commit.1 ha with olda | ⟨newa, ka⟩
    · rcases h.committed_commit.1 hb with oldb | ⟨newb, -⟩
      · exact consistent.distinct k k' a b olda oldb run number
      · exact (mixed k a b olda newb run number).elim
    · rcases h.committed_commit.1 hb with oldb | ⟨newb, kb⟩
      · exact (mixed k' b a oldb newa run.symm number.symm).elim
      · have nodup : ((v.insertedOf a.runId).map fun event => event.sequence).Nodup := by
          rw [h.numbers]
          exact List.nodup_range'
        have same := List.inj_on_of_nodup_map nodup
          (List.mem_filter.2 ⟨newa, decide_eq_true rfl⟩)
          (List.mem_filter.2 ⟨newb, decide_eq_true run.symm⟩) number
        rw [← ka, ← kb, same]

theorem Consistent.congr (consistent : Consistent db)
    (same : ∀ a, (db'.cell a).committed = (db.cell a).committed) : Consistent db' where
  range k event committed := by
    rw [same] at committed
    rw [counterOf_congr (same _)]
    exact consistent.range k event committed
  full runId n low high := by
    rw [counterOf_congr (same _)] at high
    obtain ⟨k, event, committed, rest⟩ := consistent.full runId n low high
    exact ⟨k, event, (same _).trans committed, rest⟩
  distinct k k' a b ha hb := by
    rw [same] at ha hb
    exact consistent.distinct k k' a b ha hb

/-! ## Runs -/

section Served

variable {o : FeedOracle} {s : FeedStmt} {r : Except Exn (FeedReply s)}

theorem serve_cases (h : serve o i db s = some (r, db')) :
    (∃ e, r = .error e ∧ db' = db.rollback i) ∨
    ∃ answer, r = .ok ⟨answer, o.now, o.fresh⟩ ∧ db.exec i s = some (answer, db') := by
  unfold serve at h
  split_ifs at h with raises
  · cases h
    exact .inl ⟨_, rfl, rfl⟩
  · obtain ⟨⟨answer, db''⟩, he, same⟩ := Option.map_eq_some_iff.1 h
    cases same
    exact .inr ⟨answer, rfl, he⟩

theorem serve_quiet (quiet : o.raises = false) (h : serve o i db s = some (r, db')) :
    ∃ answer, r = .ok ⟨answer, o.now, o.fresh⟩ ∧ db.exec i s = some (answer, db') := by
  unfold serve at h
  rw [quiet] at h
  obtain ⟨⟨answer, db''⟩, he, same⟩ := Option.map_eq_some_iff.1 h
  cases same
  exact ⟨answer, rfl, he⟩

theorem serve_cell (h : serve o i db s = some (r, db')) (a : Addr schema) :
    CellStep i (db.cell a) (db'.cell a) := by
  rcases serve_cases h with ⟨e, -, rfl⟩ | ⟨answer, -, he⟩
  · exact .rollback
  · exact exec_cell he a

/-- What is committed stays, or the thread commits. -/
theorem serve_committed (h : serve o i db s = some (r, db')) :
    (∀ a, (db'.cell a).committed = (db.cell a).committed) ∨ s = .commit ∧ db' = db.commit i := by
  rcases serve_cases h with ⟨e, -, rfl⟩ | ⟨answer, -, he⟩
  · exact .inl fun a => Cell.committed_rollback
  · by_cases commit : s = .commit
    · subst commit
      cases he
      exact .inr ⟨rfl, rfl⟩
    · exact .inl (exec_committed he commit)

variable (inv : Inv db views) (hi : views[i]? = some v) (allowed : v.Relies s)
  (h : serve o i db s = some (r, db'))

include inv hi allowed h

theorem Inv.consistent_after : Consistent db' := by
  rcases serve_committed h with same | ⟨rfl, rfl⟩
  · exact inv.consistent.congr same
  · exact inv.consistent.commit (inv.knows i v hi) allowed

theorem Inv.counterOf_grows (runId : String) : counterOf db runId ≤ counterOf db' runId := by
  rcases serve_committed h with same | ⟨rfl, rfl⟩
  · exact (counterOf_congr (same _)).ge
  · exact (inv.knows i v hi).counterOf_le_commit runId

/-- A committed event stays. -/
theorem Inv.committed_stays (k : String) (event : EventRow)
    (committed : (db.cell ⟨.events, k⟩).committed = some event) :
    (db'.cell ⟨.events, k⟩).committed = some event := by
  rcases serve_committed h with same | ⟨rfl, rfl⟩
  · exact (same _).trans committed
  · exact (inv.knows i v hi).committed_commit.2 (.inl committed)

theorem Inv.knows_other (other : j ≠ i) (hj : views[j]? = some w) : Knows db' j w := by
  refine (inv.knows j w hj).frame (fun a => (serve_cell h a).held_of_ne other) (fun a held => ?_)
    (inv.committed_stays hi allowed h) (inv.counterOf_grows hi allowed h)
  obtain ⟨row, hr⟩ := Option.ne_none_iff_exists'.1 held
  exact (serve_cell h a).committed_of_held other hr

theorem Inv.knows_self : Knows db' i (v.observe s r) := by
  have knows := inv.knows i v hi
  have stays := inv.committed_stays hi allowed h
  have grows := inv.counterOf_grows hi allowed h
  rcases serve_cases h with ⟨e, rfl, rfl⟩ | ⟨answer, rfl, he⟩
  · exact knows.ended (fun a => Cell.held_rollback) stays grows
  · by_cases commit : s = .commit
    · subst commit
      cases he
      exact knows.observed (knows.ended (fun a => Cell.held_commit) stays grows) trivial
    · by_cases rollback : s = .rollback
      · subst rollback
        cases he
        exact knows.observed (knows.ended (fun a => Cell.held_rollback) stays grows) trivial
      · exact knows.answered inv.consistent inv.nodup allowed he commit rollback

/-- The invariant is kept by an answer. -/
theorem Inv.serve : Inv db' (views.set i (v.observe s r)) where
  consistent := inv.consistent_after hi allowed h
  nodup := by
    rcases serve_cases h with ⟨e, -, rfl⟩ | ⟨answer, -, he⟩
    · exact inv.nodup
    · exact exec_nodup_keys he inv.nodup
  knows j w hj := by
    rcases Workload.getElem?_set_cases hj with ⟨rfl, rfl⟩ | ⟨other, hj⟩
    · exact inv.knows_self hi allowed h
    · exact inv.knows_other hi allowed h other hj
  absent j hj a := by
    have other : j ≠ i := by
      rintro rfl
      rw [Workload.getElem?_set_self _ hi] at hj
      cases hj
    rw [List.getElem?_set_ne other.symm] at hj
    rw [(serve_cell h a).held_of_ne other]
    exact inv.absent j hj a

end Served

theorem inv_start (h : Quiet db) : Inv db [] where
  consistent := by
    obtain ⟨-, events, runs, -⟩ := h
    have zero : ∀ runId, counterOf db runId = 0 := by
      intro runId
      rw [counterOf]
      split
      · rename_i run committed
        exact runs runId run committed
      · rfl
    refine ⟨fun k event committed => ?_, fun runId n low high => ?_, fun k k' a b ha => ?_⟩
    · rw [events] at committed
      cases committed
    · rw [zero] at high
      omega
    · rw [events] at ha
      cases ha
  nodup := h.2.2.2
  knows := nofun
  absent i _ a := by simp [Cell.held, h.1]

theorem Inv.call (inv : Inv db views) (call : FeedCall) :
    Inv db (views ++ [({ call := call } : FeedView)]) where
  consistent := inv.consistent
  nodup := inv.nodup
  knows i v hi := by
    by_cases old : views[i]? = some v
    · exact inv.knows i v old
    · rw [List.getElem?_append] at hi
      split_ifs at hi with bound
      · exact absurd hi old
      · rw [List.getElem?_singleton] at hi
        split_ifs at hi
        cases hi
        exact knows_start (inv.absent i (List.getElem?_eq_none (by omega)))
  absent i hi a := by
    refine inv.absent i ?_ a
    rw [List.getElem?_eq_none_iff] at hi ⊢
    rw [List.length_append] at hi
    omega

end Invariant

variable {R : Redaction} {supportsReturning : Bool}
  {s s' : Pool FeedReply Exn (List EventRow) FeedView (Db schema)}

theorem reachable_inv (h : (system R supportsReturning).Reachable s) : Inv s.shared s.views := by
  refine Workload.invariant (workload_follows R supportsReturning) (I := Inv) ?_ ?_ ?_ h
  · exact fun db quiet => inv_start quiet
  · exact fun db views call inv => inv.call call
  · intro db views i o v s r db' inv hi allowed served
    exact inv.serve hi (allowed (inv.knows i v hi).sane) served

/-! ## Delivery -/

/-- A committed event of a run. -/
def CommittedEvent (db : Db schema) (runId : String) (event : EventRow) : Prop :=
  (db.cell ⟨.events, event.id⟩).committed = some event ∧ event.runId = runId

theorem Consistent.eq_of_sequence {db : Db schema} (h : Consistent db) {runId : String}
    {a b : EventRow} (ha : CommittedEvent db runId a) (hb : CommittedEvent db runId b)
    (same : a.sequence = b.sequence) : a = b := by
  have key := h.distinct a.id b.id a b ha.1 hb.1 (ha.2.trans hb.2.symm) same
  have committed := ha.1
  rw [key, hb.1] at committed
  exact (Option.some.inj committed).symm

theorem Consistent.sequence_iff {db : Db schema} (h : Consistent db) (runId : String) (n : Nat) :
    (∃ event, CommittedEvent db runId event ∧ event.sequence = n) ↔
      1 ≤ n ∧ n ≤ counterOf db runId := by
  constructor
  · rintro ⟨event, ⟨committed, rfl⟩, rfl⟩
    exact h.range _ event committed
  · rintro ⟨low, high⟩
    obtain ⟨k, event, committed, run, number⟩ := h.full runId n low high
    have key : event.id = k := Db.key_of_committed committed
    rw [← key] at committed
    exact ⟨event, ⟨committed, run⟩, number⟩

/-- The committed events of a run up to some sequence, each once and in order. -/
structure Delivered (db : Db schema) (runId : String) (seen : List EventRow) : Prop where
  sequences : seen.map (fun event => event.sequence) = List.range' 1 seen.length
  mem_iff : ∀ event, event ∈ seen ↔
    CommittedEvent db runId event ∧ event.sequence ≤ seen.length

theorem Knows.deliveredEvents {db : Db schema} {i : Nat} {v : FeedView} (h : Knows db i v)
    (consistent : Consistent db) : Delivered db v.call.runId v.delivered where
  sequences := h.delivered
  mem_iff event := by
    have numbers : ∀ n, (∃ e ∈ v.delivered, e.sequence = n) ↔ 1 ≤ n ∧ n ≤ v.delivered.length := by
      intro n
      rw [← List.mem_map, h.delivered, List.mem_range'_1]
      omega
    constructor
    · intro mem
      exact ⟨h.committed event mem, ((numbers _).1 ⟨event, mem, rfl⟩).2⟩
    · rintro ⟨committed, seen⟩
      have low := ((consistent.sequence_iff _ _).1 ⟨event, committed, rfl⟩).1
      obtain ⟨e, mem, same⟩ := (numbers event.sequence).2 ⟨low, seen⟩
      rwa [← consistent.eq_of_sequence (h.committed e mem) committed same]

/-- A reader that has been given these events by `events_after` polls on, or has returned them. -/
inductive Reads (runId : String) (seen : List EventRow) : FeedProgram (List EventRow) → Prop
  | polls (n : Nat) : Reads runId seen (closing (poll runId seen n))
  | returned : Reads runId seen (.pure seen)

/-- A reader one of whose statements has raised. -/
inductive Raised : FeedProgram (List EventRow) → Prop
  | closes (e : Exn) : Raised (closing (.throw e))
  | closed (e : Exn) : Raised (.throw e)

/-- A reader keeps what its polls have found. -/
def Keeps (thread : Thread FeedReply Exn (List EventRow) FeedView) : Prop :=
  ∀ runId polls, thread.view.call = .read runId polls →
    Reads runId thread.view.delivered thread.program ∨ Raised thread.program

theorem FeedView.call_note (v : FeedView) (s : FeedStmt) (answer : s.Answer) :
    (v.note s answer).call = v.call := by
  unfold FeedView.note
  split <;> (repeat' split) <;> rfl

theorem FeedView.call_observe (v : FeedView) (s : FeedStmt) (r : Except Exn (FeedReply s)) :
    (protocol.observe v s r).call = v.call := by
  cases r with
  | ok reply => exact v.call_note s reply.value
  | error e => rfl

/-- A poll that is answered is added to what the reader has been given. -/
theorem Reads.polled {runId : String} {seen : List EventRow} {q : EventQuery}
    {p : FeedProgram (List EventRow)}
    {next : Except Exn (FeedReply (.select .events q)) → FeedProgram (List EventRow)}
    (h : Reads runId seen p) (hp : p = .request (.select .events q) next)
    (reply : FeedReply (.select .events q)) :
    Reads runId (seen ++ ordered reply.value) (next (.ok reply)) := by
  cases h with
  | polls n =>
    cases n with
    | zero => cases hp
    | succ n =>
      cases hp
      exact .polls n
  | returned => cases hp

theorem Keeps.answered {thread : Thread FeedReply Exn (List EventRow) FeedView} (h : Keeps thread)
    {c : FeedStmt} {next : Except Exn (FeedReply c) → FeedProgram (List EventRow)}
    (hp : thread.program = .request c next) (r : Except Exn (FeedReply c)) :
    Keeps ⟨next r, protocol.observe thread.view c r⟩ := by
  intro runId polls call
  rw [FeedView.call_observe] at call
  have before := h runId polls call
  rw [hp] at before
  generalize hq : Program.request c next = q at before
  rcases before with reads | raised
  · cases reads with
    | polls n =>
      cases n with
      | zero =>
        cases hq
        cases r <;> exact .inl .returned
      | succ n =>
        cases hq
        cases r with
        | ok reply => exact .inl (.polls n)
        | error e => exact .inr (.closes e)
    | returned => cases hq
  · cases raised with
    | closes e =>
      cases hq
      cases r <;> exact .inr (.closed e)
    | closed e => cases hq

/-- A reader that polls has not raised. -/
theorem Raised.not_polling {p : FeedProgram (List EventRow)} (h : Raised p) {q : EventQuery}
    {next : Except Exn (FeedReply (.select .events q)) → FeedProgram (List EventRow)} :
    p ≠ .request (.select .events q) next := by
  cases h <;> rintro ⟨⟩

theorem reachable_keeps (h : (system R supportsReturning).Reachable s) :
    ∀ thread ∈ s.threads, Keeps thread := by
  refine h.invariant ?_ ?_ (I := fun s => ∀ thread ∈ s.threads, Keeps thread)
  · intro s hs thread ht
    rw [hs.2] at ht
    cases ht
  · intro s turn s' _ ih hs thread ht
    rcases Workload.step_cases hs with
      ⟨k, -, rfl⟩ | ⟨i, o, th, c, next, r, shared, -, hi, hp, -, rfl⟩
    · rcases List.mem_append.1 ht with ht | ht
      · exact ih thread ht
      · rw [List.mem_singleton.1 ht]
        rintro runId polls ⟨⟩
        exact .inl (.polls polls)
    · rcases List.mem_or_eq_of_mem_set ht with ht | rfl
      · exact ih thread ht
      · exact (ih th (List.mem_of_getElem? hi)).answered hp r

/-- The committed sequences of a run are distinct and without a gap; what a reader has been given are the
committed events up to some sequence, each once and in order; and every poll completes it to all events
that are committed. -/
theorem events_delivered_once (h : (system R supportsReturning).Reachable s) :
    (∀ runId, (∃ c, ∀ n, (∃ event, CommittedEvent s.shared runId event ∧ event.sequence = n) ↔
        1 ≤ n ∧ n ≤ c) ∧
      ∀ a b, CommittedEvent s.shared runId a → CommittedEvent s.shared runId b →
        a.sequence = b.sequence → a = b) ∧
    (∀ thread ∈ s.threads, ∀ runId polls, thread.view.call = .read runId polls →
      (∃ seen, Reads runId seen thread.program ∧ Delivered s.shared runId seen) ∨
        Raised thread.program) ∧
    ∀ (i : Nat) o thread runId polls q next s', s.threads[i]? = some thread →
      thread.view.call = .read runId polls →
      thread.program = .request (.select .events q) next → o.raises = false →
      (workload R supportsReturning).step s (.answer i o) = some s' →
      ∃ thread' seen, s'.threads[i]? = some thread' ∧ Reads runId seen thread'.program ∧
        ∀ event, CommittedEvent s.shared runId event → event ∈ seen := by
  have inv := reachable_inv h
  refine ⟨fun runId => ⟨⟨_, inv.consistent.sequence_iff runId⟩,
    fun a b => inv.consistent.eq_of_sequence⟩, fun thread ht runId polls call => ?_, ?_⟩
  · obtain ⟨i, hi⟩ := List.getElem?_of_mem ht
    have delivered := (inv.knows i _ (Workload.getElem?_views hi)).deliveredEvents inv.consistent
    rw [call] at delivered
    exact (reachable_keeps h thread ht runId polls call).imp_left fun reads => ⟨_, reads, delivered⟩
  · intro i o thread runId polls q next s' hi call hp quiet step
    have view := Workload.getElem?_views hi
    have knows := inv.knows i thread.view view
    have allowed := Workload.allowed_request (workload_follows R supportsReturning) h hi hp
    obtain ⟨rfl, inserted⟩ := allowed knows.sane
    obtain ⟨polled, last⟩ := knows.polled inv.consistent inv.nodup inserted
    have delivered := polled.deliveredEvents inv.consistent
    rcases Workload.step_cases step with
      ⟨k, turn, -⟩ | ⟨i', o', thread', c, next', r, db', turn, hi', hp', served, rfl⟩
    · cases turn
    · cases turn
      obtain rfl : thread = thread' := Option.some.inj (hi.symm.trans hi')
      rw [hp] at hp'
      cases hp'
      obtain ⟨answer, rfl, he⟩ := serve_quiet quiet served
      cases he
      have reads := (reachable_keeps h thread (List.mem_of_getElem? hi) runId polls call).resolve_right
        fun raised => raised.not_polling hp
      refine ⟨_, _, List.getElem?_set_self (List.getElem?_eq_some_iff.1 hi).1, reads.polled hp _,
        fun event committed => ?_⟩
      refine (delivered.mem_iff event).2 ⟨?_, ?_⟩
      · rw [call]
        exact committed
      · have bound := ((inv.consistent.sequence_iff _ _).1 ⟨event, committed, rfl⟩).2
        have same : thread.view.call.runId = runId := congrArg FeedCall.runId call
        rw [← same] at bound
        exact bound.trans last.ge

/-- Texts that need no redaction. -/
def plain : Redaction := ⟨id, id⟩

/-- No run exists. -/
theorem quiet_empty : Quiet Db.empty := ⟨fun _ => rfl, fun _ => rfl, nofun, List.nodup_nil⟩

/-- The sequences of the events that a reader has returned. -/
def returned (program : FeedProgram (List EventRow)) : Option (List Nat) :=
  match program with
  | .pure events => some (events.map fun event => event.sequence)
  | _ => none

/-- A writer creates a run and appends two events, and a reader polls before and after the commit. -/
def pollingRun : List (Turn FeedCall FeedOracle) :=
  [.start (.write [.create "run" .queued .queued, .append "run" ⟨"Run queued.", none, .info, .queued⟩,
      .append "run" ⟨"Worker claimed the run.", none, .info, .queued⟩, .commit]),
    .start (.read "run" 2), .answer 1 {}, .answer 0 {}, .answer 0 { fresh := "a" },
    .answer 0 { fresh := "b" }, .answer 0 {}, .answer 0 {}, .answer 0 {}, .answer 0 {}, .answer 1 {},
    .answer 1 {}]

theorem events_delivered_once_polled : ∃ s, (system plain true).Reachable s ∧
    s.threads.map (fun thread => returned thread.program) = [none, some [1, 2]] ∧
    (∃ c, ∀ n, (∃ event, CommittedEvent s.shared "run" event ∧ event.sequence = n) ↔
      1 ≤ n ∧ n ≤ c) ∧
    ∀ thread ∈ s.threads, ∀ runId polls, thread.view.call = .read runId polls →
      (∃ seen, Reads runId seen thread.program ∧ Delivered s.shared runId seen) ∨
        Raised thread.program := by
  have outcome : (run (workload plain true).step ⟨Db.empty, []⟩ pollingRun).map (fun s =>
      s.threads.map fun thread => returned thread.program) = some [none, some [1, 2]] := by
    decide +kernel
  obtain ⟨s, hs, given⟩ := Option.map_eq_some_iff.1 outcome
  have initial : (system plain true).Reachable ⟨Db.empty, []⟩ := .init ⟨quiet_empty, rfl⟩
  have reachable := initial.steps (steps_of_run hs)
  have delivered := events_delivered_once reachable
  exact ⟨s, reachable, given, (delivered.1 "run").1, delivered.2.1⟩

end EventFeed

end DataMover
