import DataMover.Runs.EventFeed

/-!
# What a writer of events counts

Between its statements a writer keeps `Counted`: the events that it has inserted and those that are
still in its session carry the sequences that it has counted.  So every event is inserted under the lock
on its run with the next sequence, and a transaction commits all events that it has counted.
-/

namespace DataMover

open ReadCommitted Program Transition

namespace EventFeed

/-! ## The programs follow the protocol -/

section Conformance

variable {v : FeedView} {work : Work} {owed : Option String} {runId : String} {R : Redaction}
  {supportsReturning : Bool}

/-- An event is due for a sequence that has been counted. -/
def due (owed : Option String) (runId : String) : Nat := if owed = some runId then 1 else 0

/-- The sequences of the events that a transaction has inserted and added. -/
def numbers (v : FeedView) (events : List EventRow) (runId : String) : List Nat :=
  ((v.inserted ++ events).filter (·.runId = runId)).map fun event => event.sequence

/-- The events of a transaction carry the sequences that it has counted, but for one that is due. -/
structure Counted (v : FeedView) (work : Work) (owed : Option String) : Prop where
  sequences : ∀ e ∈ work.sequences, owed ≠ some e.1 → ∃ b, v.counter e.1 = some (b, e.2)
  numbers : ∀ runId, numbers v work.events runId =
    List.range' (v.base runId + 1) (v.top runId - v.base runId - due owed runId)
  le : ∀ runId, v.base runId + due owed runId ≤ v.top runId

def Tracks (v : FeedView) (work : Work) (owed : Option String) : Prop :=
  v.Sane → Counted v work owed

@[simp] theorem due_none : due none runId = 0 := rfl

@[simp] theorem due_self : due (some runId) runId = 1 := if_pos rfl

theorem due_of_ne {other : String} (h : other ≠ runId) : due (some other) runId = 0 :=
  if_neg fun same => h (Option.some.inj same)

theorem FeedView.base_of_some {b m : Nat} (h : v.counter runId = some (b, m)) :
    v.base runId = b := by
  rw [FeedView.base, h]
  rfl

theorem FeedView.top_of_some {b m : Nat} (h : v.counter runId = some (b, m)) :
    v.top runId = m := by
  rw [FeedView.top, h]
  rfl

theorem FeedView.counter_wrote (before now : Nat) :
    (v.wrote runId before now).counter runId =
      some (((v.counter runId).map Prod.fst).getD before, now) :=
  Function.update_self ..

theorem FeedView.counter_wrote_of_ne {other : String} (before now : Nat) (h : other ≠ runId) :
    (v.wrote runId before now).counter other = v.counter other :=
  Function.update_of_ne h ..

theorem FeedView.base_wrote_of_ne {other : String} (before now : Nat) (h : other ≠ runId) :
    (v.wrote runId before now).base other = v.base other := by
  rw [FeedView.base, FeedView.counter_wrote_of_ne before now h, FeedView.base]

theorem FeedView.top_wrote_of_ne {other : String} (before now : Nat) (h : other ≠ runId) :
    (v.wrote runId before now).top other = v.top other := by
  rw [FeedView.top, FeedView.counter_wrote_of_ne before now h, FeedView.top]

theorem FeedView.base_wrote (before now : Nat) : (v.wrote runId before now).base runId =
    ((v.counter runId).map Prod.fst).getD before := by
  rw [FeedView.base, FeedView.counter_wrote]
  rfl

theorem FeedView.top_wrote (before now : Nat) : (v.wrote runId before now).top runId = now := by
  rw [FeedView.top, FeedView.counter_wrote]
  rfl

@[simp] theorem numbers_wrote (before now : Nat) (events : List EventRow) (other : String) :
    EventFeed.numbers (v.wrote runId before now) events other = EventFeed.numbers v events other :=
  rfl

/-- A run that the transaction has not locked has no events of it. -/
theorem Counted.of_none (h : Counted v work owed) (hc : v.counter runId = none) :
    EventFeed.numbers v work.events runId = [] ∧ due owed runId = 0 := by
  have base : v.base runId = 0 := by rw [FeedView.base, hc]; rfl
  have top : v.top runId = 0 := by rw [FeedView.top, hc]; rfl
  have le := h.le runId
  refine ⟨?_, by omega⟩
  rw [h.numbers, base, top, Nat.zero_sub]
  rfl

/-- A run is written without counting. -/
theorem Counted.wrote (h : Counted v work owed) {n : Nat}
    (same : ∀ b m, v.counter runId = some (b, m) → n = m) :
    Counted (v.wrote runId n n) work owed where
  sequences e he settled := by
    obtain ⟨b, hc⟩ := h.sequences e he settled
    refine ⟨b, ?_⟩
    by_cases own : e.1 = runId
    · rw [own] at hc ⊢
      rw [FeedView.counter_wrote, hc, same b e.2 hc]
      rfl
    · rw [FeedView.counter_wrote_of_ne n n own, hc]
  numbers other := by
    by_cases own : other = runId
    · subst own
      rw [numbers_wrote, FeedView.base_wrote, FeedView.top_wrote]
      cases hc : v.counter other with
      | none =>
        obtain ⟨none, nothing⟩ := h.of_none hc
        rw [none, Option.map_none, Option.getD_none, Nat.sub_self, Nat.zero_sub]
        rfl
      | some c =>
        rw [h.numbers, v.base_of_some hc, v.top_of_some hc, same c.1 c.2 hc]
        rfl
    · rw [numbers_wrote, FeedView.base_wrote_of_ne n n own, FeedView.top_wrote_of_ne n n own]
      exact h.numbers other
  le other := by
    by_cases own : other = runId
    · subst own
      rw [FeedView.base_wrote, FeedView.top_wrote]
      cases hc : v.counter other with
      | none =>
        obtain ⟨-, nothing⟩ := h.of_none hc
        rw [nothing, Option.map_none, Option.getD_none, Nat.add_zero]
      | some c =>
        have le := h.le other
        rw [v.base_of_some hc, v.top_of_some hc] at le
        rw [same c.1 c.2 hc]
        exact le
    · rw [FeedView.base_wrote_of_ne n n own, FeedView.top_wrote_of_ne n n own]
      exact h.le other

/-- A sequence is counted, and its event is due. -/
theorem Counted.counts (h : Counted v work none) {n : Nat}
    (same : ∀ b m, v.counter runId = some (b, m) → n = m) :
    Counted (v.wrote runId n (n + 1)) work (some runId) where
  sequences e he settled := by
    obtain ⟨b, hc⟩ := h.sequences e he nofun
    refine ⟨b, ?_⟩
    rw [FeedView.counter_wrote_of_ne n (n + 1) fun own => settled (congrArg some own.symm), hc]
  numbers other := by
    by_cases own : other = runId
    · subst own
      rw [numbers_wrote, FeedView.base_wrote, FeedView.top_wrote, due_self]
      cases hc : v.counter other with
      | none =>
        rw [(h.of_none hc).1, Option.map_none, Option.getD_none, Nat.add_sub_cancel_left,
          Nat.sub_self]
        rfl
      | some c =>
        have le := h.le other
        rw [v.base_of_some hc, v.top_of_some hc, due_none] at le
        rw [h.numbers, v.base_of_some hc, v.top_of_some hc, due_none, same c.1 c.2 hc]
        simp only [Option.map_some, Option.getD_some]
        congr 1
        omega
    · rw [numbers_wrote, FeedView.base_wrote_of_ne _ _ own, FeedView.top_wrote_of_ne _ _ own,
        due_of_ne fun same => own same.symm]
      exact h.numbers other
  le other := by
    by_cases own : other = runId
    · subst own
      rw [FeedView.base_wrote, FeedView.top_wrote, due_self]
      cases hc : v.counter other with
      | none => rfl
      | some c =>
        have le := h.le other
        rw [v.base_of_some hc, v.top_of_some hc, due_none] at le
        rw [same c.1 c.2 hc]
        exact Nat.succ_le_succ le
    · rw [FeedView.base_wrote_of_ne _ _ own, FeedView.top_wrote_of_ne _ _ own,
        due_of_ne fun same => own same.symm]
      exact h.le other

/-- The event that is due is added. -/
theorem Counted.add (h : Counted v work (some runId)) {event : EventRow} {b n : Nat}
    (hc : v.counter runId = some (b, n)) (run : event.runId = runId) (hn : event.sequence = n) :
    Counted v ⟨(runId, n) :: work.sequences.filter (·.1 ≠ runId), work.events ++ [event]⟩ none where
  sequences e he _ := by
    rcases List.mem_cons.1 he with rfl | he
    · exact ⟨b, hc⟩
    · obtain ⟨old, other⟩ := List.mem_filter.1 he
      exact h.sequences e old fun same => of_decide_eq_true other (Option.some.inj same).symm
  numbers other := by
    have before := h.numbers other
    have le := h.le other
    unfold EventFeed.numbers at before ⊢
    rw [← List.append_assoc, List.filter_append, List.map_append, before]
    by_cases own : other = runId
    · subst own
      rw [v.base_of_some hc, v.top_of_some hc, due_self] at le
      rw [v.base_of_some hc, v.top_of_some hc, due_self, due_none]
      simp only [List.filter_singleton, run, decide_true, cond_true, List.map_singleton, hn]
      obtain ⟨k, rfl⟩ : ∃ k, n = b + k + 1 := ⟨n - b - 1, by omega⟩
      rw [show b + k + 1 - b - 1 = k by omega, show b + k + 1 - b - 0 = k + 1 by omega,
        List.range'_concat]
      congr 2
      omega
    · rw [due_of_ne fun same => own same.symm, due_none, List.filter_singleton, run,
        decide_eq_false fun same => own same.symm]
      simp
  le other := by
    have le := h.le other
    rw [due_none]
    omega

/-- Only the counters and the inserted events matter. -/
theorem Counted.of_same {v' : FeedView} (h : Counted v work owed) (counter : v'.counter = v.counter)
    (inserted : v'.inserted = v.inserted) : Counted v' work owed := by
  obtain ⟨call, sane, counters, events, delivered⟩ := v'
  cases counter
  cases inserted
  exact ⟨h.sequences, h.numbers, h.le⟩

theorem Counted.observed {s : FeedStmt} {reply : FeedReply s} {w : FeedView}
    (h : Counted w work owed) (noted : v.note s reply.value = w) :
    Counted (protocol.observe v s (.ok reply)) work owed := by
  subst noted
  exact h.of_same rfl rfl

/-- The next event that the session adds has the next sequence of its run. -/
theorem Counted.next {event : EventRow} {rest : List EventRow}
    (h : Counted v ⟨[], event :: rest⟩ none) : v.Relies (.insert .events event) := by
  have numbers := h.numbers event.runId
  have le := h.le event.runId
  rw [due_none, Nat.sub_zero] at numbers
  rw [due_none] at le
  cases hc : v.counter event.runId with
  | none =>
    have nothing := (h.of_none hc).1
    simp [EventFeed.numbers] at nothing
  | some c =>
    rw [v.base_of_some hc, v.top_of_some hc] at numbers le
    simp only [EventFeed.numbers, List.filter_append, List.map_append, List.filter_cons,
      decide_true, if_true, List.map_cons] at numbers
    have length := congrArg List.length numbers
    simp only [List.length_append, List.length_map, List.length_cons, List.length_range'] at length
    have value := congrArg (·[(v.insertedOf event.runId).length]?) numbers
    simp only [FeedView.insertedOf] at value
    rw [List.getElem?_append_right (by simp), List.length_map, Nat.sub_self,
      List.getElem?_cons_zero, List.getElem?_range' (by omega)] at value
    simp only [Option.some.injEq, Nat.one_mul] at value
    refine ⟨c.1, c.2, hc, value, ?_⟩
    omega

/-- A transaction whose events are all inserted may commit. -/
theorem Counted.complete (h : Counted v {} none) : v.Relies .commit := by
  intro runId b m hc
  have numbers := congrArg List.length (h.numbers runId)
  have le := h.le runId
  simp only [EventFeed.numbers, List.append_nil, List.length_map, List.length_range', due_none,
    v.base_of_some hc, v.top_of_some hc] at numbers le
  unfold FeedView.insertedOf
  omega

theorem tracks_start (counter : v.counter = fun _ => none) (inserted : v.inserted = []) :
    Tracks v {} none := by
  intro _
  refine Counted.of_same (v := { call := v.call }) ⟨nofun, fun _ => rfl, fun _ => ?_⟩ counter inserted
  exact Nat.le_refl 0

theorem note_update {q : RunQuery} {c : RunChange} {run : RunRow}
    {answer : (Stmt.update (S := schema) .runs runId q c).Answer}
    (found : (show Option RunRow from answer) = some run) (other : c ≠ .increment) :
    v.note (.update .runs runId q c) answer =
      v.wrote runId run.nextEventSequence run.nextEventSequence := by
  cases found
  cases c with
  | increment => exact absurd rfl other
  | sequence n => rfl
  | columns status stage => rfl

theorem note_increment {q : RunQuery} {run : RunRow}
    {answer : (Stmt.update (S := schema) .runs runId q (.increment : RunChange)).Answer}
    (found : (show Option RunRow from answer) = some run) :
    v.note (.update .runs runId q (.increment : RunChange)) answer =
      v.wrote runId (run.nextEventSequence - 1) run.nextEventSequence := by
  cases found
  rfl

theorem note_missed {q : RunQuery} {c : RunChange}
    {answer : (Stmt.update (S := schema) .runs runId q c).Answer}
    (missed : (show Option RunRow from answer) = none) :
    v.note (.update .runs runId q c) answer = v := by
  cases missed
  cases c <;> rfl

theorem note_inserted {e : EventRow}
    {answer : (Stmt.insert (S := schema) .events e).Answer}
    (done : (show Bool from answer) = true) :
    v.note (.insert .events e) answer = { v with inserted := v.inserted ++ [e] } := by
  cases done
  rfl

theorem sat_flushSequences {events : List EventRow} (sequences : List (String × Nat))
    (h : Tracks v ⟨sequences, events⟩ none) :
    Sat protocol (Unless fun v => Tracks v ⟨[], events⟩ none) v (flushSequences sequences) := by
  induction sequences generalizing v with
  | nil => exact h
  | cons e rest ih =>
    obtain ⟨runId, n⟩ := e
    refine Sat.unless_call (fun sane => (h sane).sequences _ List.mem_cons_self nofun)
      fun written => ?_
    split
    · exact trivial
    · rename_i run found
      refine ih fun sane => ?_
      obtain ⟨b, hc⟩ := (h sane.1).sequences _ List.mem_cons_self nofun
      obtain ⟨m, counted, -⟩ := sane.2 run found
      have same : ∀ b' m', v.counter runId = some (b', m') → run.nextEventSequence = m' := by
        intro b' m' hc'
        rw [hc] at hc'
        cases hc'
        exact counted
      have written := (h sane.1).wrote same
      have noted := note_update (v := v) (q := .any) (c := .sequence n) found nofun
      exact Counted.observed
        ⟨fun e he => written.sequences e (List.mem_cons_of_mem _ he), written.numbers, written.le⟩
        noted

theorem sat_flushEvents (events : List EventRow) (h : Tracks v ⟨[], events⟩ none) :
    Sat protocol (Unless fun v => Tracks v {} none) v (flushEvents events) := by
  induction events generalizing v with
  | nil => exact h
  | cons event rest ih =>
    refine Sat.unless_call (fun sane => (h sane).next) fun inserted => ?_
    split_ifs with done
    · refine ih fun sane => ?_
      have before := h sane.1
      have noted := note_inserted (v := v) (e := event) done
      refine Counted.observed (w := { v with inserted := v.inserted ++ [event] })
        ⟨nofun, fun runId => ?_, before.le⟩ noted
      have numbers := before.numbers runId
      simp only [EventFeed.numbers, List.append_assoc, List.singleton_append] at numbers ⊢
      exact numbers
    · exact trivial

theorem sat_flush (h : Tracks v work none) :
    Sat protocol (Unless fun v => Tracks v {} none) v (flush work) :=
  Sat.unless_bind (sat_flushSequences work.sequences h) fun _ _ => sat_flushEvents work.events

/-- What the increment has counted. -/
def Owes (work : Work) (runId : String) (v : FeedView) : Except Exn (Answered (Option Nat)) → Prop
  | .ok reply => ∀ n, reply.value = some n → v.Sane →
    Counted v work (some runId) ∧ ∃ b, v.counter runId = some (b, n)
  | .error _ => True

theorem sat_scalarReturning (h : Tracks v work none) :
    Sat protocol (Owes work runId) v (scalarReturning supportsReturning runId) := by
  unfold scalarReturning
  refine Sat.call_bind (fun _ => trivial) (fun updated => ?_) fun _ => trivial
  split
  · exact nofun
  · rename_i run found
    have counted : (protocol.observe v (.update .runs runId (.any : RunQuery)
        (.increment : RunChange)) (.ok updated)).Sane →
        Counted (protocol.observe v (.update .runs runId (.any : RunQuery)
          (.increment : RunChange)) (.ok updated)) work (some runId) ∧
        ∃ b, (protocol.observe v (.update .runs runId (.any : RunQuery)
          (.increment : RunChange)) (.ok updated)).counter runId = some (b, run.nextEventSequence) := by
      intro sane
      obtain ⟨n, counted, same⟩ := sane.2 run found
      have counted : run.nextEventSequence = n + 1 := counted
      have noted := note_increment (v := v) (q := .any) found
      rw [counted, Nat.add_sub_cancel] at noted
      refine ⟨Counted.observed ((h sane.1).counts same) noted, ?_⟩
      have counters := congrArg (fun w : FeedView => w.counter runId) noted
      rw [counted]
      exact ⟨_, counters.trans (FeedView.counter_wrote n (n + 1))⟩
    split_ifs
    · rintro m ⟨⟩ sane
      exact counted sane
    · refine Sat.call_bind (fun _ => trivial) (fun again => ?_) fun _ => trivial
      intro m value sane
      obtain ⟨row, first, rfl⟩ := Option.map_eq_some_iff.1 value
      obtain ⟨settled, b, hc⟩ := counted sane.1
      obtain ⟨own, same⟩ := sane.2 row (List.mem_of_mem_head? first)
      obtain rfl : row.id = runId := of_decide_eq_true own
      refine ⟨settled.of_same rfl rfl, b, ?_⟩
      rw [same b _ hc]
      exact hc

theorem sat_appendEvent {line : Line} (h : Tracks v work none) :
    Sat protocol (fun v r => ∀ work, r = .ok work → Tracks v work none) v
      (appendEvent R supportsReturning work runId line) := by
  refine (sat_scalarReturning h).bind (fun t sequence owes => ?_) fun _ _ _ => nofun
  split
  · exact nofun
  · rename_i n value
    rintro work' ⟨⟩ sane
    obtain ⟨settled, b, hc⟩ := owes n value sane
    exact settled.add hc rfl rfl

/-- Nothing is said of the outcome. -/
abbrev Follows {α : Type} (v : FeedView) (p : FeedProgram α) : Prop :=
  Sat protocol (fun _ _ => True) v p

theorem follows_execute {α : Type} {s : FeedStmt} {f : FeedReply s → FeedProgram α}
    (allowed : v.Sane → v.Relies s)
    (ok : ∀ reply, Follows (protocol.observe v s (.ok reply)) (f reply)) :
    Follows v (execute s >>= f) :=
  Sat.call_bind allowed ok fun _ => trivial

theorem tracks_created {run : RunRow} {reply : FeedReply (.insert .runs run)}
    (h : Tracks v work none) (done : (show Bool from reply.value) = true) :
    Tracks (protocol.observe v (.insert .runs run) (.ok reply)) work none := by
  intro sane
  have absent : v.counter run.id = none := sane.2 done
  have noted : v.note (.insert .runs run) reply.value = v.wrote run.id 0 0 := if_pos done
  refine Counted.observed ((h sane.1).wrote fun b m hc => ?_) noted
  rw [absent] at hc
  cases hc

theorem tracks_locked {q : RunQuery} {reply : FeedReply (.lock .runs runId q)}
    (h : Tracks v work none) : Tracks (protocol.observe v (.lock .runs runId q) (.ok reply)) work none := by
  intro sane
  cases found : (show Option RunRow from reply.value) with
  | none =>
    refine Counted.observed (h sane.1) ?_
    simp only [FeedView.note, found]
  | some run =>
    refine Counted.observed ((h sane.1).wrote (n := run.nextEventSequence)
      fun b m hc => sane.2 run found b m hc) ?_
    simp only [FeedView.note, found]

theorem tracks_updated {q : RunQuery} {status : PipelineRunStatus} {stage : Stage}
    {reply : FeedReply (.update .runs runId q (.columns status stage : RunChange))}
    (h : Tracks v work none) : Tracks
      (protocol.observe v (.update .runs runId q (.columns status stage : RunChange)) (.ok reply))
      work none := by
  intro sane
  cases found : (show Option RunRow from reply.value) with
  | none => exact Counted.observed (h sane.1) (note_missed found)
  | some run =>
    obtain ⟨n, counted, same⟩ := sane.2 run found
    have counted : run.nextEventSequence = n := counted
    exact Counted.observed ((h sane.1).wrote fun b m hc => counted.trans (same b m hc))
      (note_update found nofun)

theorem follows_write (steps : List Step) (h : Tracks v work none) :
    Follows v (write R supportsReturning work steps) := by
  induction steps generalizing v work with
  | nil => exact trivial
  | cons step rest ih =>
    cases step with
    | create runId status stage =>
      refine follows_execute (fun _ => rfl) fun inserted => ?_
      split_ifs with done
      · exact ih (tracks_created h done)
      · exact trivial
    | append runId line =>
      exact (sat_appendEvent h).bind (fun t work tracks => ih (tracks work rfl)) fun _ _ _ => trivial
    | lock runId q => exact follows_execute (fun _ => rfl) fun _ => ih (tracks_locked h)
    | update runId q status stage =>
      exact follows_execute (fun _ => trivial) fun _ => ih (tracks_updated h)
    | flush => exact (sat_flush h).bind (fun t _ tracks => ih tracks) fun _ _ _ => trivial
    | commit =>
      refine (sat_flush h).bind (fun t _ tracks => ?_) fun _ _ _ => trivial
      exact follows_execute (fun sane => (tracks sane).complete) fun _ => ih (tracks_start rfl rfl)
    | rollback => exact follows_execute (fun _ => trivial) fun _ => ih (tracks_start rfl rfl)

theorem sat_eventsAfter {seen : List EventRow} (run : v.call.runId = runId)
    (given : v.delivered = seen) (inserted : v.inserted = []) :
    Sat protocol (fun t r => ∀ events, r = .ok events → t.call.runId = runId ∧
      t.delivered = seen ++ events ∧ t.inserted = []) v (eventsAfter runId (largest 0 seen)) := by
  subst run given
  refine Sat.call_bind (fun _ => ⟨rfl, inserted⟩) (fun found => ?_) fun _ => nofun
  rintro events ⟨⟩
  exact ⟨rfl, rfl, inserted⟩

theorem follows_poll {seen : List EventRow} (polls : Nat) (run : v.call.runId = runId)
    (given : v.delivered = seen) (inserted : v.inserted = []) :
    Follows v (poll runId seen polls) := by
  induction polls generalizing v seen with
  | zero => exact trivial
  | succ n ih =>
    refine (sat_eventsAfter run given inserted).bind (fun t events h => ?_) fun _ _ _ => trivial
    obtain ⟨run, given, inserted⟩ := h events rfl
    exact ih run given inserted

theorem follows_closing {α : Type} {p : FeedProgram α} (h : Follows v p) : Follows v (closing p) := by
  unfold closing
  refine Sat.bind (R := fun _ _ => True) (sat_attempt.2 h) (fun t outcome _ => ?_)
    fun _ _ _ => trivial
  refine Sat.bind (R := fun _ _ => True) ?_ (fun t _ _ => sat_lift.2 trivial) fun _ _ _ => trivial
  exact sat_attempt.2 (sat_call.2 ⟨fun _ => trivial, fun _ => trivial⟩)

theorem workload_follows (R : Redaction) (supportsReturning : Bool) :
    (workload R supportsReturning).Follows
  | .write steps => by
    refine follows_closing ?_
    exact (follows_write steps (tracks_start rfl rfl)).bind (fun _ _ _ => trivial) fun _ _ _ => trivial
  | .read _ polls => follows_closing (follows_poll polls rfl rfl rfl)

end Conformance

end EventFeed

end DataMover
