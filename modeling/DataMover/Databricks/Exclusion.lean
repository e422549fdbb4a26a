import DataMover.Databricks.Interleaving

/-!
# Publications exclude each other

From `prepare_started` until its publication, the record of a worker holds the target of its run,
unless a recovery pass claims it.  So two workers that are about to publish have different targets
(`publications_are_exclusive`).
-/

namespace DataMover

open Program (Workload Pool Turn)
open Transition

/-! ## Records -/

namespace PublicationTable

variable {t t' : PublicationTable} {r record : Publication} {runId : String}

theorem get_eq_some_iff : t.get runId = some r ↔ r ∈ t.records ∧ r.runId = runId := by
  refine ⟨mem_of_get, ?_⟩
  rintro ⟨hr, rfl⟩
  rcases hg : t.get r.runId with _ | r'
  · have absent := List.find?_eq_none.1 hg r hr
    simp at absent
  · obtain ⟨hr', same⟩ := mem_of_get hg
    rw [eq_of_runId_eq hr' hr same]

theorem mem_commit_iff (h : t.commit record = .ok t') : r ∈ t'.records ↔
    r ∈ t.records ∧ r.runId ≠ record.runId ∨
      r = record ∧ ∃ before ∈ t.records, before.runId = record.runId := by
  unfold commit at h
  split_ifs at h
  cases h
  simp only [put, List.mem_map]
  constructor
  · rintro ⟨before, hb, rfl⟩
    by_cases same : before.runId = record.runId
    · rw [if_pos same]
      exact .inr ⟨rfl, before, hb, same⟩
    · rw [if_neg same]
      exact .inl ⟨hb, same⟩
  · rintro (⟨hr, ne⟩ | ⟨rfl, before, hb, same⟩)
    · exact ⟨r, hr, if_neg ne⟩
    · exact ⟨before, hb, if_pos same⟩

/-- A commit writes the record of its run. -/
theorem get_commit (h : t.commit record = .ok t') (known : t.get record.runId = some r) :
    t'.get record.runId = some record := by
  obtain ⟨hr, same⟩ := mem_of_get known
  exact get_eq_some_iff.2 ⟨(mem_commit_iff h).2 (.inr ⟨rfl, r, hr, same⟩), rfl⟩

/-- A commit leaves the records of other runs as they were. -/
theorem get_commit_of_ne (h : t.commit record = .ok t') (ne : runId ≠ record.runId)
    (hr : t.get runId = some r) : t'.get runId = some r := by
  obtain ⟨known, rfl⟩ := mem_of_get hr
  exact get_eq_some_iff.2 ⟨(mem_commit_iff h).2 (.inl ⟨known, ne⟩), rfl⟩

theorem get_append (h : t'.records = t.records ++ [record]) (hr : t.get runId = some r) :
    t'.get runId = some r := by
  obtain ⟨known, rfl⟩ := mem_of_get hr
  exact get_eq_some_iff.2 ⟨h ▸ List.mem_append_left _ known, rfl⟩

theorem get_appended (h : t'.records = t.records ++ [record]) :
    t'.get record.runId = some record :=
  get_eq_some_iff.2 ⟨h ▸ List.mem_append_right _ (List.mem_singleton_self _), rfl⟩

end PublicationTable

namespace Publication

variable {r r' : Publication} {now : Time} {w : PublicationWriter} {event : PublicationEvent}

/-- The record holds its target, and no pass owns it. -/
def Holds (r : Publication) : Prop :=
  r.recoveryToken = none ∧ r.activeTargetKey = some r.targetKey

/-- An event after which the target is still held. -/
def holding : PublicationEvent → Bool
  | .stagingReady | .batchWritten _ _ | .publishSubmitted | .publishUncertain _ => true
  | _ => false

theorem holds_apply (h : r.apply now w event = .ok r') (same : r.targetKey = w.targetKey)
    (keeps : holding event = true) (holds : r.Holds) :
    r'.Holds ∧ r'.targetKey = r.targetKey ∧
      (r.submittedAt.isSome ∨ event = .publishSubmitted → r'.submittedAt.isSome) := by
  cases event with
  | stagingReady | batchWritten =>
    cases h
    exact ⟨holds, rfl, fun submitted => submitted.resolve_right nofun⟩
  | publishSubmitted =>
    cases h
    exact ⟨holds, rfl, fun _ => rfl⟩
  | publishUncertain =>
    cases h
    exact ⟨⟨holds.1, congrArg some same.symm⟩, rfl, fun submitted => submitted.resolve_right nofun⟩
  | _ => cases keeps

end Publication

namespace WriterPhase

/-- The phases between `prepare_started` and the outcome of a publication. -/
def Fenced (phase : WriterPhase) : Prop := phase = prepared ∨ phase = staged ∨ phase = submitted

variable {phase after : WriterPhase} {event : PublicationEvent}

theorem fenced_next (h : phase.next event = some after) (fenced : after.Fenced)
    (later : event ≠ .prepareStarted) : phase.Fenced ∧ Publication.holding event = true := by
  cases phase <;> cases event <;> simp [next] at h later ⊢ <;> subst h <;>
    simp [Fenced, Publication.holding] at fenced ⊢

theorem fenced_failed (h : (phase.next event).isSome) (fenced : (failed event).Fenced)
    (unpublished : event ≠ .committed) : phase.Fenced ∧ Publication.holding event = true := by
  cases phase <;> cases event <;>
    simp [next, failed, Fenced, Publication.holding] at h fenced unpublished ⊢

theorem submitted_next (h : phase.next event = some submitted) :
    phase = submitted ∨ event = .publishSubmitted := by
  cases phase <;> cases event <;> simp [next] at h ⊢

theorem submitted_failed (h : (phase.next event).isSome) (last : failed event = submitted) :
    phase = submitted := by
  cases phase <;> cases event <;> simp [next, failed] at h last ⊢

end WriterPhase

namespace Databricks

/-! ## What a call leaves of a record -/

section Server

variable {t : PublicationTable} {o : Chance} {r : Publication} {runId : String}

theorem get_transact {α : Type} {result : α} {outcome : Except Exn PublicationTable}
    (hr : t.get runId = some r)
    (kept : ∀ ledger, outcome = .ok ledger → ledger.get runId = some r) :
    (transact t o result outcome).2.get runId = some r := by
  rcases transact_cases (t := t) (o := o) result outcome with same | committed
  · rw [same]
    exact hr
  · exact kept _ committed

theorem get_unchanged (hr : t.get runId = some r) (ledger : PublicationTable)
    (h : (.ok t : Except Exn PublicationTable) = .ok ledger) : ledger.get runId = some r := by
  cases h
  exact hr

/-- A pass writes no record that nobody owns. -/
theorem get_writeOwned {α : Type} {passRun token : String} {absent present : α}
    {write : Publication → Publication} (hr : t.get runId = some r) (free : r.recoveryToken = none)
    (writes : ∀ r, (write r).runId = r.runId) :
    (writeOwned t o passRun token absent present write).2.get runId = some r := by
  unfold writeOwned
  split
  · exact get_transact hr (get_unchanged hr)
  · rename_i owned found
    obtain ⟨found, holder⟩ := Option.filter_eq_some_iff.1 found
    have same := (PublicationTable.mem_of_get found).2
    refine get_transact hr fun ledger h => PublicationTable.get_commit_of_ne h ?_ hr
    rw [writes, same]
    rintro rfl
    obtain rfl : r = owned := Option.some.inj (hr.symm.trans found)
    rw [free] at holder
    simp at holder

theorem get_of_candidate (h : candidate? t o = some r) : t.get o.candidate = some r := by
  unfold candidate? at h
  split at h
  · rename_i found _
    split_ifs at h
    rw [found, h]
  · cases h

/-- A call that neither claims an unowned record nor is an event of its run leaves it as it was. -/
theorem get_reply {c : DatabricksCall} (hr : t.get runId = some r) (free : r.recoveryToken = none)
    (foreign : ∀ w event, c = .record w runId event → event = .prepareStarted)
    (unclaimed : claimedRun t o c ≠ some runId) : (reply t o c).2.get runId = some r := by
  cases c with
  | record w eventRun event =>
    refine get_transact hr fun ledger h => ?_
    rcases recordPublicationEvent_ok h with ⟨-, -, -, inserted⟩ | ⟨r₀, r', found, -, applied, done⟩
    · exact PublicationTable.get_append inserted hr
    · refine PublicationTable.get_commit_of_ne done ?_ hr
      rw [Publication.apply_runId applied, (PublicationTable.mem_of_get found).2]
      rintro rfl
      obtain rfl := foreign w event rfl
      cases applied
  | claimRecovery =>
    simp only [reply, claim]
    split
    · rename_i found candidate
      refine get_transact hr fun ledger h => PublicationTable.get_commit_of_ne h ?_ hr
      show runId ≠ found.runId
      rw [(PublicationTable.mem_of_get (get_of_candidate candidate)).2]
      rintro rfl
      simp [claimedRun, candidate] at unclaimed
    · exact get_transact hr (get_unchanged hr)
  | readOperation passRun token => exact get_transact hr (get_unchanged hr)
  | deferRecovery | confirmCommit | finishRecovery => exact get_writeOwned hr free fun _ => rfl
  | _ => exact hr

/-- What an event leaves of the record of its run. -/
theorem get_recorded {w : PublicationWriter} {event : PublicationEvent}
    (hr : t.get runId = some r) (keeps : Publication.holding event = true) (holds : r.Holds) :
    ∃ r', (reply t o (.record w runId event)).2.get runId = some r' ∧ r'.Holds ∧
      r'.targetKey = r.targetKey ∧ (r.submittedAt.isSome ∨
        (reply t o (.record w runId event)).1.isOk = true ∧ event = .publishSubmitted →
          r'.submittedAt.isSome) := by
  have refused {result : Except Raised Unit} (h : result.isOk = false) :
      r.submittedAt.isSome ∨ result.isOk = true ∧ event = .publishSubmitted →
        r.submittedAt.isSome := by
    rintro (submitted | ⟨ok, -⟩)
    · exact submitted
    · cases h.symm.trans ok
  simp only [reply]
  cases outcome : recordPublicationEvent o.now t (o.leases runId) runId w event with
  | error e => cases e <;> exact ⟨r, hr, holds, rfl, refused rfl⟩
  | ok ledger =>
    rcases recordPublicationEvent_ok outcome with
      ⟨-, absent, -⟩ | ⟨r₀, r', found, key, applied, done⟩
    · cases hr.symm.trans absent
    · obtain rfl : r = r₀ := Option.some.inj (hr.symm.trans found)
      obtain ⟨holds', same, submits⟩ := Publication.holds_apply applied key keeps holds
      have run : r'.runId = runId :=
        (Publication.apply_runId applied).trans (PublicationTable.mem_of_get hr).2
      have found' : ledger.get runId = some r' := by
        have written := PublicationTable.get_commit done (run ▸ hr)
        rwa [run] at written
      unfold transact
      cases o.fate with
      | done | lost =>
        exact ⟨r', found', holds', same, fun known => submits (known.imp_right And.right)⟩
      | refused => exact ⟨r, hr, holds, rfl, refused rfl⟩

end Server

/-! ## The invariant -/

/-- Between its `prepare_started` and its publication, the record of a worker holds its target. -/
def Shared.Guards (s : Shared) (v : Custody) : Prop :=
  v.owner = true → v.sent = none → v.phase.Fenced → v.order.runId ∉ s.claimed →
    ∃ r, s.ledger.get v.order.runId = some r ∧ r.Holds ∧ v.order.targetKey = some r.targetKey ∧
      (v.phase = .submitted → r.submittedAt.isSome)

namespace Custody

variable {v : Custody} {c : DatabricksCall} {r : Except Raised c.Answer}

/-- Only events change the phase and the owner, and no call takes a publication back. -/
theorem observe_other (other : ∀ w runId event, c ≠ .record w runId event) :
    (v.observe c r).phase = v.phase ∧ (v.observe c r).owner = v.owner := by
  cases c with
  | record w runId event => exact absurd rfl (other w runId event)
  | execute statement => cases statement <;> exact ⟨rfl, rfl⟩
  | _ => exact ⟨rfl, rfl⟩

theorem unsent_before (h : (v.observe c r).sent = none) : v.sent = none := by
  cases before : v.sent with
  | none => rfl
  | some b =>
    have kept : (v.observe c r).sent.isSome := sent_kept (before ▸ rfl)
    rw [h] at kept
    cases kept

/-- The phase before an event that leaves a worker between its first event and its publication. -/
theorem fenced_before {event : PublicationEvent} {ok : Bool} (records : v.Records event)
    (unsent : v.sent = none) (fenced : (v.recorded event ok).phase.Fenced)
    (later : event ≠ .prepareStarted) :
    v.phase.Fenced ∧ Publication.holding event = true ∧
      ((v.recorded event ok).phase = .submitted →
        v.phase = .submitted ∨ ok = true ∧ event = .publishSubmitted) := by
  obtain ⟨next, -, shown⟩ := records
  have unpublished : event ≠ .committed := by
    rintro rfl
    cases unsent.symm.trans shown
  cases ok with
  | true =>
    obtain ⟨after, next⟩ := Option.isSome_iff_exists.1 next
    have phase : (v.recorded event true).phase = after := by
      simp only [recorded, next]
      rfl
    rw [phase] at fenced ⊢
    obtain ⟨before, keeps⟩ := WriterPhase.fenced_next next fenced later
    refine ⟨before, keeps, ?_⟩
    rintro rfl
    exact (WriterPhase.submitted_next next).imp_right fun last => ⟨rfl, last⟩
  | false =>
    obtain ⟨before, keeps⟩ := WriterPhase.fenced_failed next fenced unpublished
    exact ⟨before, keeps, fun last => .inl (WriterPhase.submitted_failed next last)⟩

end Custody

namespace Shared.Guards

variable {s s' : Shared} {v : Custody} {c : DatabricksCall} {o : Chance}

/-- The first event of a run inserts its record. -/
theorem prepared {w : PublicationWriter} (keyed : v.order.targetKey = some w.targetKey)
    (next : (v.phase.next .prepareStarted).isSome)
    (ledger : s'.ledger = (reply s.ledger o (.record w v.order.runId .prepareStarted)).2) :
    s'.Guards (v.observe (.record w v.order.runId .prepareStarted)
      (reply s.ledger o (.record w v.order.runId .prepareStarted)).1) := by
  intro _ _ fenced _
  cases answer : (reply s.ledger o (.record w v.order.runId .prepareStarted)).1 with
  | error e =>
    rw [answer] at fenced
    rcases fenced with phase | phase | phase <;> cases phase
  | ok a =>
    have recorded := transact_ok answer
    have phase : (v.recorded .prepareStarted true).phase = .prepared := by
      cases start : v.phase with
      | start =>
        simp only [Custody.recorded, start]
        rfl
      | _ =>
        rw [start] at next
        cases next
    rcases recordPublicationEvent_ok recorded with ⟨-, -, -, inserted⟩ | ⟨_, _, -, -, applied, -⟩
    · refine ⟨.prepared v.order.runId w, ?_, ⟨rfl, rfl⟩, keyed, fun last => ?_⟩
      · rw [ledger]
        exact PublicationTable.get_appended inserted
      · cases phase.symm.trans last
    · cases applied

/-- An event of the worker itself. -/
theorem record {w : PublicationWriter} {runId : String} {event : PublicationEvent}
    (h : s.Guards v) (allowed : v.Allows (.record w runId event))
    (ledger : s'.ledger = (reply s.ledger o (.record w runId event)).2)
    (claimed : s'.claimed = s.claimed) :
    s'.Guards (v.observe (.record w runId event)
      (reply s.ledger o (.record w runId event)).1) := by
  obtain ⟨rfl, keyed, records⟩ := allowed
  by_cases first : event = .prepareStarted
  · subst first
    exact prepared keyed records.1 ledger
  · intro _ unsent fenced unclaimed
    rw [claimed] at unclaimed
    obtain ⟨before, keeps, submits⟩ := Custody.fenced_before records unsent fenced first
    obtain ⟨r, hr, holds, key, submitted⟩ := h (records.2.1 first) unsent before unclaimed
    obtain ⟨r', hr', holds', same, submitted'⟩ := get_recorded (o := o) (w := w) hr keeps holds
    refine ⟨r', ledger ▸ hr', holds', same ▸ key, fun last => submitted' ?_⟩
    exact (submits last).imp_left submitted

/-- A call that is no event of the run. -/
theorem other (h : s.Guards v)
    (foreign : v.owner = true → ∀ w event, c = .record w v.order.runId event →
      event = .prepareStarted)
    (ledger : s'.ledger = (reply s.ledger o c).2)
    (claimed : s'.claimed = (claimedRun s.ledger o c).toList ++ s.claimed) : s'.Guards v := by
  intro owner unsent fenced unclaimed
  rw [claimed, List.mem_append, not_or] at unclaimed
  obtain ⟨r, hr, holds, rest⟩ := h owner unsent fenced unclaimed.2
  refine ⟨r, ?_, holds, rest⟩
  rw [ledger]
  refine get_reply hr holds.1 (foreign owner) fun claims => unclaimed.1 ?_
  rw [claims]
  exact List.mem_singleton_self _

end Shared.Guards

/-- Every worker is guarded. -/
def Shared.Guarded (s : Shared) (views : List View) : Prop :=
  ∀ (i : Nat) (v : Custody), views[i]? = some (.worker v) → s.Guards v

theorem Shared.Guarded.step {s s' : Shared} {views : List View} {i : Nat} {view : View}
    {c : DatabricksCall} {r : Except Raised c.Answer} {o : Chance} (h : s.Guarded views)
    (apart : s.Apart views) (hi : views[i]? = some view)
    (allowed : custodyProtocol.Allowed view c)
    (served : publicationWorkload.serve o i s c = some (r, s')) :
    s'.Guarded (views.set i (custodyProtocol.observe view c r)) := by
  cases served
  intro j v hj
  rcases Workload.getElem?_set_cases hj with ⟨rfl, same⟩ | ⟨ne, before⟩
  · cases view with
    | pass u => cases same
    | worker u =>
      obtain rfl := View.worker.inj same
      by_cases event : ∃ w runId event, c = .record w runId event
      · obtain ⟨w, runId, event, rfl⟩ := event
        exact (h j u hi).record allowed rfl rfl
      · have other : ∀ w runId event, c ≠ .record w runId event :=
          fun w runId e hc => event ⟨w, runId, e, hc⟩
        obtain ⟨phase, owner⟩ := Custody.observe_other (v := u) (r := (reply s.ledger o c).1) other
        have guarded : Shared.Guards {
            ledger := (reply s.ledger o c).2
            executed := if c.executes then s.executed ++ [j] else s.executed
            published := if c.publishes then s.published ++ [j] else s.published
            claimed := (claimedRun s.ledger o c).toList ++ s.claimed } u :=
          (h j u hi).other (fun _ w e hc => absurd hc (other _ _ _)) rfl rfl
        intro owns unsent fenced unclaimed
        rw [Custody.order_observe] at unclaimed ⊢
        rw [phase] at fenced ⊢
        exact guarded (owner ▸ owns) (Custody.unsent_before unsent) fenced unclaimed
  · refine (h j v before).other (fun owner w event hc => ?_) rfl rfl
    by_contra later
    subst hc
    cases view with
    | pass u => exact allowed
    | worker u =>
      obtain ⟨run, -, records⟩ := allowed
      exact ne (apart.alone j i (.worker v) (.worker u) v.order.runId before hi ⟨v, rfl, owner, rfl⟩
        ⟨u, rfl, records.2.1 later, run.symm⟩)

/-! ## Publications exclude each other -/

section Runs

variable {s : Pool DatabricksCall.Answer Raised Unit View Shared}

theorem guarded_of_reachable (h : publicationSystem.Reachable s) :
    s.shared.Apart s.views ∧ s.shared.Guarded s.views := by
  refine Workload.invariant publicationWorkload_follows
    (I := fun s views => s.Apart views ∧ s.Guarded views) ?_ ?_ ?_ h
  · exact fun t empty => ⟨apart_init empty, fun i v hi => nomatch hi⟩
  · rintro t views k ⟨apart, guarded⟩
    refine ⟨apart.call k, fun i v hi => ?_⟩
    rcases Workload.getElem?_concat_cases hi with hi | same
    · exact guarded i v hi
    · cases k with
      | work x env run lawful =>
        obtain rfl := View.worker.inj same
        exact fun owner => absurd owner nofun
      | recover y => cases same
  · rintro t views i o view c r shared ⟨apart, guarded⟩ hi allowed served
    exact ⟨apart.step hi allowed served, guarded.step apart hi allowed served⟩

/-- A thread is about to execute the statement of its publication. -/
def Publishes (s : Pool DatabricksCall.Answer Raised Unit View Shared) (i : Nat) : Prop :=
  ∃ thread, s.threads[i]? = some thread ∧ ∃ c, thread.program.head = some c ∧ c.publishes = true

/-- What the ledger holds for a worker that is about to publish. -/
theorem record_of_publishes (h : publicationSystem.Reachable s) {i : Nat} {v : Custody}
    (hi : s.views[i]? = some (.worker v)) (publishes : Publishes s i)
    (unclaimed : v.order.runId ∉ s.shared.claimed) :
    v.owner = true ∧ ∃ r, s.shared.ledger.get v.order.runId = some r ∧ r.submittedAt.isSome ∧
      r.activeTargetKey = some r.targetKey ∧ v.order.targetKey = some r.targetKey := by
  obtain ⟨⟨program, view⟩, ht, c, next, publishes⟩ := publishes
  obtain rfl : View.worker v = view := Option.some.inj (hi.symm.trans (Workload.getElem?_views ht))
  cases program with
  | pure | throw => cases next
  | request c' rest =>
    obtain rfl := Option.some.inj next
    have allowed : v.Allows c' :=
      Workload.allowed_request publicationWorkload_follows h ht rfl
    unfold DatabricksCall.publishes at publishes
    split at publishes
    · obtain ⟨owner, phase, unsent, -⟩ := allowed
      obtain ⟨r, hr, holds, key, submitted⟩ := (guarded_of_reachable h).2 i v hi owner unsent
        (.inr (.inr phase)) unclaimed
      exact ⟨owner, r, hr, submitted phase, holds.2, key⟩
    · cases publishes

/-- In every interleaving of workers and recovery passes, over any ledger and whatever is answered,
the submission of a worker that is about to publish is in the ledger and holds the target of its
run, and no two workers are about to publish to one target, unless a pass has claimed a record. -/
theorem publications_are_exclusive (h : publicationSystem.Reachable s) :
    (∀ (i : Nat) (v : Custody), s.views[i]? = some (.worker v) → Publishes s i →
      v.order.runId ∉ s.shared.claimed → ∃ r, s.shared.ledger.get v.order.runId = some r ∧
        r.submittedAt.isSome ∧ r.activeTargetKey = v.order.targetKey) ∧
    ∀ (i j : Nat) (v w : Custody), s.views[i]? = some (.worker v) →
      s.views[j]? = some (.worker w) → Publishes s i → Publishes s j →
      v.order.runId ∉ s.shared.claimed → w.order.runId ∉ s.shared.claimed →
      v.order.targetKey = w.order.targetKey → i = j := by
  refine ⟨fun i v hi publishes unclaimed => ?_,
    fun i j v w hi hj publishes publishes' unclaimed unclaimed' same => ?_⟩
  · obtain ⟨-, r, hr, submitted, active, key⟩ := record_of_publishes h hi publishes unclaimed
    exact ⟨r, hr, submitted, active.trans key.symm⟩
  · obtain ⟨owner, r, hr, -, active, key⟩ := record_of_publishes h hi publishes unclaimed
    obtain ⟨owner', r', hr', -, active', key'⟩ := record_of_publishes h hj publishes' unclaimed'
    obtain ⟨known, run⟩ := PublicationTable.mem_of_get hr
    obtain ⟨known', run'⟩ := PublicationTable.mem_of_get hr'
    have target : r.targetKey = r'.targetKey :=
      Option.some.inj (key.symm.trans (same.trans key'))
    have sameRun : r.runId = r'.runId :=
      s.shared.ledger.activeTarget r known r' known' r.targetKey active (target ▸ active')
    exact (guarded_of_reachable h).1.alone i j (.worker v) (.worker w) v.order.runId hi hj
      ⟨v, rfl, owner, rfl⟩ ⟨w, rfl, owner', run'.symm.trans (sameRun.symm.trans run)⟩

/-! ## Two workers that publish -/

/-- The id of another run. -/
def otherRunId : String := "00000000-0000-0000-0000-000000000002"

/-- Another run, which writes to another table. -/
def Task.other : Task :=
  .work { Context.sample with runId := otherRunId, targetKey _ := "other" }
    .sampleDatabricks { PipelineRun.sample with id := otherRunId } lawful_sampleDatabricks

/-- Both workers go on until they are about to publish. -/
def neighbours : List (Turn Task Chance) :=
  .start .sample :: .start .other ::
    (List.replicate 65 (.answer 0 .sample) ++ List.replicate 65 (.answer 1 .sample))

theorem publishes_of_requesters {i : Nat} {runId : String}
    (h : (requesters DatabricksCall.publishes s)[i]? = some (some runId, true)) :
    (∃ v, s.views[i]? = some (.worker v)) ∧ Publishes s i := by
  rw [requesters, List.getElem?_map] at h
  obtain ⟨⟨program, view⟩, ht, both⟩ := Option.map_eq_some_iff.1 h
  obtain ⟨run, publishes⟩ := Prod.mk.inj both
  cases view with
  | pass v => cases run
  | worker v =>
    obtain ⟨c, head, hc⟩ := (Option.any_eq_true _ _).1 publishes
    exact ⟨⟨v, Workload.getElem?_views ht⟩, _, ht, c, head, hc⟩

theorem publications_are_exclusive_neighbours : ∃ s, publicationSystem.Reachable s ∧
    Publishes s 0 ∧ Publishes s 1 ∧ ∃ v w, s.views[0]? = some (.worker v) ∧
      s.views[1]? = some (.worker w) ∧ v.order.targetKey ≠ w.order.targetKey ∧
      ∃ r, s.shared.ledger.get v.order.runId = some r ∧ r.submittedAt.isSome := by
  have ran : (run publicationWorkload.step noPublications neighbours).map
      (fun s => (requesters DatabricksCall.publishes s, s.shared.claimed)) =
      some ([(some sampleRunId, true), (some otherRunId, true)], []) := by decide +kernel
  obtain ⟨s, hs, found⟩ := Option.map_eq_some_iff.1 ran
  obtain ⟨both, claimed⟩ := Prod.mk.inj found
  have init : publicationSystem.Reachable noPublications := .init ⟨⟨rfl, rfl⟩, rfl⟩
  have reachable := init.steps (steps_of_run hs)
  obtain ⟨⟨v, hv⟩, publishes⟩ := publishes_of_requesters (s := s) (i := 0) (by rw [both]; rfl)
  obtain ⟨⟨w, hw⟩, publishes'⟩ := publishes_of_requesters (s := s) (i := 1) (by rw [both]; rfl)
  have unclaimed (runId : String) : runId ∉ s.shared.claimed := by
    rw [claimed]
    exact List.not_mem_nil
  obtain ⟨held, exclusive⟩ := publications_are_exclusive reachable
  obtain ⟨r, hr, submitted, -⟩ := held 0 v hv publishes (unclaimed _)
  refine ⟨s, reachable, publishes, publishes', v, w, hv, hw, fun same => ?_, r, hr, submitted⟩
  cases exclusive 0 1 v w hv hw publishes publishes' (unclaimed _) (unclaimed _) same

end Runs

end Databricks

end DataMover
