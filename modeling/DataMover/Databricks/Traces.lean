import DataMover.Databricks.Workers
import DataMover.Engine.Connectors

/-!
# What a worker does to its publication

The protocol read along a run of `process_one`, whatever its calls answer: the ledger is told what
has happened, in the order of `WriterPhase.next` (`events_recorded_in_order`); the statement of the
publication is executed at most once, and publishes the images of everything that the source has
yielded (`published_once`); and what the worker reports of its run agrees with that
(`reports_are_true`).
-/

namespace Program

variable {C : Type} {A : C → Type} {ε α σ : Type} {P : Protocol A ε σ}

/-- What every allowed request keeps of the protocol state and the events so far. -/
theorem Sat.along {I : σ → List (Event A ε) → Prop} {Q : σ → Except ε α → Prop} {s : σ}
    {p q : Program A ε α} {done events : List (Event A ε)} (h : Sat P Q s p)
    (run : Runs p events q)
    (step : ∀ s done c r, P.Allowed s c → I s done → I (P.observe s c r) (done ++ [⟨c, r⟩]))
    (init : I s done) : I (P.after s events) (done ++ events) := by
  induction run generalizing s done with
  | refl p =>
    rw [List.append_nil]
    exact init
  | step run ih =>
    have rest := ih (h.2 _) (step s done _ _ h.1 init)
    rwa [List.append_assoc, List.singleton_append] at rest

end Program

namespace DataMover

open Program (Sat Runs)

namespace WriterPhase

variable {phase : WriterPhase} {event : PublicationEvent}

theorem next_submitted (h : phase.next event = some submitted) :
    event = .publishSubmitted ∨ phase = submitted := by
  cases phase <;> cases event <;> simp [next] at h ⊢

theorem failed_submitted (h : (phase.next event).isSome) (failed : failed event = submitted) :
    phase = submitted := by
  cases phase <;> cases event <;> simp [next, WriterPhase.failed] at h failed ⊢

end WriterPhase

namespace Databricks

/-! ## Traces -/

/-- A call with its answer. -/
abbrev Made := Program.Event DatabricksCall.Answer Raised

namespace Made

/-- The statement of the publication was executed. -/
def publishes : Made → Bool
  | ⟨.execute (.publish _ _ _ _ _), _⟩ => true
  | _ => false

/-- The statement of the publication has returned. -/
def published : Made → Bool
  | ⟨.execute (.publish _ _ _ _ _), .ok _⟩ => true
  | _ => false

/-- The event was recorded. -/
def records (event : PublicationEvent) : Made → Bool
  | ⟨.record _ _ event', .ok _⟩ => decide (event' = event)
  | _ => false

end Made

/-- The phase after a call. -/
def phaseStep (phase : WriterPhase) : Made → WriterPhase
  | ⟨.record _ _ event, .ok _⟩ => (phase.next event).getD .stopped
  | ⟨.record _ _ event, .error _⟩ => .failed event
  | _ => phase

/-- What is known of the staging table after a call. -/
def stagingStep (table : StagingView) : Made → StagingView
  | ⟨.execute (.createStaging _ _), r⟩ => if r.isOk then .holds [] else .unknown
  | ⟨.execute (.insertValues _ _ rows), r⟩ => match table with
    | .holds before => if r.isOk then .holds (before ++ rows) else .unknown
    | _ => .unknown
  | ⟨.execute (.dropIfExists _), r⟩ => if r.isOk then .gone else .unknown
  | _ => table

/-- What the source has yielded after a call. -/
def yieldStep (yielded : Option Spool.Yield) : Made → Option Spool.Yield
  | ⟨.worker (.extract _ _), .ok source⟩ => some source
  | _ => yielded

/-- The phase that the recorded events have reached. -/
def phaseOf (events : List Made) : WriterPhase := events.foldl phaseStep .start

/-- What the statements show of the staging table. -/
def stagingOf (events : List Made) : StagingView := events.foldl stagingStep .unknown

/-- What the source has yielded. -/
def yieldOf (events : List Made) : Option Spool.Yield := events.foldl yieldStep none

/-- What is known of a worker is what its calls have shown. -/
structure Traced (order : Commission) (v : Custody) (events : List Made) : Prop where
  order : v.order = order
  phase : v.phase = phaseOf events
  table : v.table = stagingOf events
  extraction : v.worker.extraction = yieldOf events
  owner : v.owner = true → ∃ made ∈ events, made.records .prepareStarted = true
  submitted : v.phase = .submitted → ∃ made ∈ events, made.records .publishSubmitted = true
  unsent : v.sent = none → ∀ made ∈ events, made.publishes = false
  sent : v.sent = some true → ∃ made ∈ events, made.published = true
  once : (events.filter Made.publishes).length ≤ 1

section Observing

variable {v : Custody} {order : Commission} {events : List Made} {c : DatabricksCall}
  {r : Except Raised c.Answer}

theorem observe_order : (v.observe c r).order = v.order := by
  cases c with
  | execute s => cases s <;> rfl
  | _ => rfl

theorem observe_phase : (v.observe c r).phase = phaseStep v.phase ⟨c, r⟩ := by
  cases c with
  | record w runId event => cases r <;> rfl
  | execute s => cases s <;> rfl
  | _ => rfl

theorem observe_table : (v.observe c r).table = stagingStep v.table ⟨c, r⟩ := by
  obtain ⟨order, phase, owner, table, sent, marked, worker⟩ := v
  cases c with
  | execute s =>
    cases s with
    | insertValues => cases table <;> rfl
    | _ => rfl
  | _ => rfl

theorem observe_extraction :
    (v.observe c r).worker.extraction = yieldStep v.worker.extraction ⟨c, r⟩ := by
  cases c with
  | worker call =>
    cases call with
    | service call =>
      cases call with
      | transition status message => cases status <;> cases r <;> rfl
      | _ => cases r <;> rfl
    | _ => cases r <;> rfl
  | execute s => cases s <;> rfl
  | _ => rfl

theorem observe_owner (h : (v.observe c r).owner = true) :
    v.owner = true ∨ Made.records .prepareStarted ⟨c, r⟩ = true := by
  cases c with
  | record w runId event =>
    cases r with
    | ok a => exact Bool.or_eq_true _ _ ▸ h
    | error e => exact .inl ((Bool.or_false _).symm.trans h)
  | execute s => cases s <;> exact .inl h
  | _ => exact .inl h

theorem observe_submitted (allowed : v.Allows c) (h : (v.observe c r).phase = .submitted) :
    v.phase = .submitted ∨ Made.records .publishSubmitted ⟨c, r⟩ = true := by
  rw [observe_phase] at h
  cases c with
  | record w runId event =>
    obtain ⟨-, -, next, -⟩ := allowed
    cases r with
    | ok a =>
      obtain ⟨phase, hp⟩ := Option.isSome_iff_exists.1 next
      have reached : phase = .submitted := by
        simpa only [phaseStep, hp, Option.getD_some] using h
      exact (WriterPhase.next_submitted (reached ▸ hp)).symm.imp id fun same => decide_eq_true same
    | error e => exact .inl (WriterPhase.failed_submitted next h)
  | _ => exact .inl h

theorem observe_sent : (v.observe c r).sent =
    if Made.publishes ⟨c, r⟩ then some (Made.published ⟨c, r⟩) else v.sent := by
  cases c with
  | execute s => cases s <;> cases r <;> rfl
  | _ => rfl

/-- The statement of the publication is executed only when it was not executed before. -/
theorem unsent_of_publishes (allowed : v.Allows c) (h : Made.publishes ⟨c, r⟩ = true) :
    v.sent = none := by
  cases c with
  | execute s =>
    cases s with
    | publish => exact allowed.2.2.1
    | _ => cases h
  | _ => cases h

theorem mem_last (made : Made) : made ∈ events ++ [made] :=
  List.mem_append_right _ (List.mem_singleton_self _)

/-- What an allowed call shows is known afterwards. -/
theorem Traced.observe (allowed : v.Allows c) (h : Traced order v events) :
    Traced order (v.observe c r) (events ++ [⟨c, r⟩]) where
  order := observe_order.trans h.order
  phase := by
    rw [observe_phase, h.phase, phaseOf, phaseOf, List.foldl_append]
    rfl
  table := by
    rw [observe_table, h.table, stagingOf, stagingOf, List.foldl_append]
    rfl
  extraction := by
    rw [observe_extraction, h.extraction, yieldOf, yieldOf, List.foldl_append]
    rfl
  owner ho := by
    rcases observe_owner ho with ho | last
    · obtain ⟨made, hm, recorded⟩ := h.owner ho
      exact ⟨made, List.mem_append_left _ hm, recorded⟩
    · exact ⟨_, mem_last _, last⟩
  submitted hp := by
    rcases observe_submitted allowed hp with hp | last
    · obtain ⟨made, hm, recorded⟩ := h.submitted hp
      exact ⟨made, List.mem_append_left _ hm, recorded⟩
    · exact ⟨_, mem_last _, last⟩
  unsent hs := by
    rw [observe_sent] at hs
    split at hs
    · cases hs
    · rename_i quiet
      intro made hm
      rcases List.mem_append.1 hm with hm | hm
      · exact h.unsent hs made hm
      · rw [List.mem_singleton.1 hm]
        exact Bool.eq_false_iff.2 quiet
  sent hs := by
    rw [observe_sent] at hs
    split at hs
    · exact ⟨_, mem_last _, Option.some.inj hs⟩
    · obtain ⟨made, hm, published⟩ := h.sent hs
      exact ⟨made, List.mem_append_left _ hm, published⟩
  once := by
    rw [List.filter_append, List.length_append]
    by_cases publishes : Made.publishes ⟨c, r⟩ = true
    · have none := h.unsent (unsent_of_publishes allowed publishes)
      rw [List.filter_eq_nil_iff.2 fun made hm => by simp [none made hm]]
      exact (Nat.zero_add _).trans_le (List.length_filter_le _ _)
    · rw [List.filter_cons_of_neg publishes]
      exact h.once

/-- Before its first call nothing is known of a worker. -/
theorem traced_nil (order : Commission) : Traced order { order := order } [] where
  order := rfl
  phase := rfl
  table := rfl
  extraction := rfl
  owner := nofun
  submitted := nofun
  unsent _ _ hm := absurd hm List.not_mem_nil
  sent := nofun
  once := Nat.zero_le 1

end Observing

/-! ## A publication -/

/-- The id of the sample run. -/
def sampleRunId : String := "00000000-0000-0000-0000-000000000001"

/-- A table of the sample workspace. -/
def sampleTarget : DatabricksTable where
  workspaceId := "1"
  catalog := "main"
  schemaName := "public"
  table := "copies"
  connectionGeneration := "generation"

/-- A serverless warehouse, and a route whose types are spelled in lower case. -/
def Context.sample : Context where
  writerEnabled := true
  stagingSchema := "private.staging"
  workspaceId := "1"
  connectionGeneration := "generation"
  onWarehouse := true
  casefold := id
  targetKey _ := "target"
  destination := .databricksTable sampleTarget
  destinationJson := ""
  writeMode := "databricks_create"
  runId := sampleRunId
  userId := "user"
  leaseToken := "token"

/-- What is answered when nothing raises; the publication of the run has finished. -/
def sampleReply : (c : DatabricksCall) → Except Raised c.Answer
  | .worker call => (sampleAnswer call).mapError fun _ => .provider { name := "" }
  | .record _ _ _ | .openSession _ | .execute _ | .closeSession | .deferRecovery _ _ _ _ _ _
  | .finishRecovery _ _ => .ok ()
  | .tableRows _ => .ok []
  | .schemaRows _ => .ok 1
  | .readTags _ => .ok ⟨[], []⟩
  | .inspectObject _ => .error (.provider { name := "" })
  | .enableServerlessCompute => .ok (some true)
  | .nowMs => .ok 1000000
  | .queryHistory _ _ _ => .ok {
      res := [⟨"FINISHED", publicationTags sampleRunId "target", ""⟩], nextPage := none }
  | .describeHistory _ => .ok ([], [])
  | .claimRecovery => .ok (some (sampleRunId, "token"))
  | .readOperation _ _ => .ok (some (.granted {
      state := .publishing
      submissionId := sampleRunId
      targetLocatorJson := ""
      submittedAtMs := 900000
      workspaceId := "1"
      connectionGeneration := "generation"
      onWarehouse := true }))
  | .confirmCommit _ _ _ => .ok true

/-- The worker of the sample run after some calls. -/
def publishing (calls : Nat) : List Made × Publisher (Except Exn Unit × StagedLoads) :=
  Program.play sampleReply calls
    (publishOne .sample .sampleDatabricks { PipelineRun.sample with id := sampleRunId })

theorem runs_publishing (calls : Nat) :
    Runs (publishOne .sample .sampleDatabricks { PipelineRun.sample with id := sampleRunId })
      (publishing calls).1 (publishing calls).2 :=
  Program.runs_play sampleReply calls _

theorem lawful_sampleDatabricks : WorkerEnv.sampleDatabricks.lib.Lawful := Library.sample_lawful

/-- The event that a program is about to record. -/
def nextEvent {α : Type} (p : Publisher α) : Option PublicationEvent :=
  match p.head with
  | some (.record _ _ event) => some event
  | _ => none

theorem head_of_nextEvent {α : Type} {p : Publisher α} {event : PublicationEvent}
    (h : nextEvent p = some event) : ∃ w runId, p.head = some (.record w runId event) := by
  unfold nextEvent at h
  split at h
  · cases h
    exact ⟨_, _, by assumption⟩
  · cases h

/-- The table that a program is about to publish. -/
def nextTarget {α : Type} (p : Publisher α) : Option String :=
  match p.head with
  | some (.execute (.publish _ _ target _ _)) => some target
  | _ => none

theorem head_of_nextTarget {α : Type} {p : Publisher α} {target : String}
    (h : nextTarget p = some target) : ∃ comment mode columns source,
      p.head = some (.execute (.publish comment mode target columns source)) := by
  unfold nextTarget at h
  split at h
  · cases h
    exact ⟨_, _, _, _, by assumption⟩
  · cases h

/-- A program is about to complete its run. -/
def completes {α : Type} (p : Publisher α) : Bool :=
  match p.head with
  | some (.worker (.service (.completeRun _))) => true
  | _ => false

theorem head_of_completes {α : Type} {p : Publisher α} (h : completes p = true) :
    ∃ a, p.head = some (.worker (.service (.completeRun a))) := by
  unfold completes at h
  split at h
  · exact ⟨_, by assumption⟩
  · cases h

/-! ## Runs -/

section Worker

variable {x : Context} {env : WorkerEnv} {pipelineRun : PipelineRun} {events : List Made}
  {q : Publisher (Except Exn Unit × StagedLoads)}

/-- After any run of a worker, its next call is allowed by what its calls have shown. -/
theorem allowed_after (lawful : env.lib.Lawful) (run : Runs (publishOne x env pipelineRun) events q) :
    ∃ v, Traced (commission x env pipelineRun) v events ∧ ∀ c, q.head = some c → v.Allows c := by
  have sat : Sat custodyProtocol (fun _ _ => True)
      (.worker { order := commission x env pipelineRun }) (publishOne x env pipelineRun) :=
    publishOne_sat lawful
  have along := Sat.along
    (I := fun s done => ∃ v, s = .worker v ∧ Traced (commission x env pipelineRun) v done) sat run
    (fun s done c r allowed ⟨v, same, traced⟩ => by
      subst same
      exact ⟨v.observe c r, rfl, traced.observe allowed⟩)
    ⟨_, rfl, traced_nil _⟩
  obtain ⟨v, after, traced⟩ := along
  refine ⟨v, traced, fun c next => ?_⟩
  have allowed := (sat.runs run).allowed next
  rw [after] at allowed
  exact allowed

/-- The events of a worker reach the ledger in their order; a commit is recorded after the statement
has returned, a cleanup after the staging table was dropped, and an unchanged destination only when
the statement was never executed. -/
theorem events_recorded_in_order (lawful : env.lib.Lawful)
    (run : Runs (publishOne x env pipelineRun) events q) {w : PublicationWriter} {runId : String}
    {event : PublicationEvent} (next : q.head = some (.record w runId event)) :
    runId = x.runId ∧ ((phaseOf events).next event).isSome ∧
      (event ≠ .prepareStarted → ∃ made ∈ events, made.records .prepareStarted = true) ∧
      (event = .committed → ∃ made ∈ events, made.published = true) ∧
      (event = .cleanupConfirmed ∨ event = .abortConfirmed → stagingOf events = .gone) ∧
      (event = .abortConfirmed → ∀ made ∈ events, made.publishes = false) := by
  obtain ⟨v, traced, allowed⟩ := allowed_after lawful run
  obtain ⟨own, -, phase, owner, shown⟩ := allowed _ next
  refine ⟨own.trans (congrArg Commission.runId traced.order), traced.phase ▸ phase,
    fun later => traced.owner (owner later), ?_, ?_, ?_⟩
  · rintro rfl
    exact traced.sent shown
  · rintro (rfl | rfl)
    · exact traced.table.symm.trans shown
    · exact traced.table.symm.trans shown.1
  · rintro rfl
    exact traced.unsent shown.2

/-- The sample run is about to record its commit. -/
theorem events_recorded_in_order_committed : nextEvent (publishing 67).2 = some .committed ∧
    ∃ made ∈ (publishing 67).1, made.published = true := by
  have next : nextEvent (publishing 67).2 = some .committed := by decide +kernel
  obtain ⟨w, runId, head⟩ := head_of_nextEvent next
  obtain ⟨-, -, -, committed, -⟩ :=
    events_recorded_in_order lawful_sampleDatabricks (runs_publishing 67) head
  exact ⟨next, committed rfl⟩

/-- The statement of the publication is executed at most once, after its submission was recorded; it
publishes the staging table of the run into the target of the run, and the table holds the rows that
were inserted for the images of everything that the source has yielded.  No other statement writes a
table but the staging table. -/
theorem published_once (lawful : env.lib.Lawful)
    (run : Runs (publishOne x env pipelineRun) events q) :
    (events.filter Made.publishes).length ≤ 1 ∧
    (∀ comment mode target columns source,
      q.head = some (.execute (.publish comment mode target columns source)) →
      (∀ made ∈ events, made.publishes = false) ∧
      (∃ made ∈ events, made.records .publishSubmitted = true) ∧
      source = (commission x env pipelineRun).staging ∧
      (commission x env pipelineRun).target = some target ∧
      (commission x env pipelineRun).mode = some mode ∧
      ∃ rows, stagingOf events = .holds rows ∧
        (commission x env pipelineRun).Images (yieldOf events) rows) ∧
    ∀ table, (∃ declarations, q.head = some (.execute (.createStaging table declarations))) ∨
        (∃ columns rows, q.head = some (.execute (.insertValues table columns rows))) ∨
        q.head = some (.execute (.dropIfExists table)) →
      table = (commission x env pipelineRun).staging ∧
      ∃ made ∈ events, made.records .prepareStarted = true := by
  obtain ⟨v, traced, allowed⟩ := allowed_after lawful run
  refine ⟨traced.once, fun comment mode target columns source next => ?_, fun table next => ?_⟩
  · obtain ⟨-, phase, unsent, source, target, mode, rows, table, images⟩ := allowed _ next
    refine ⟨traced.unsent unsent, traced.submitted phase, ?_, ?_, ?_, rows, ?_, ?_⟩
    · rw [source, traced.order]
    · rw [← traced.order, target]
    · rw [← traced.order, mode]
    · rw [← traced.table, table]
    · rw [← traced.order, ← traced.extraction]
      exact images
  · have owned : v.owner = true ∧ table = v.order.staging := by
      rcases next with ⟨declarations, next⟩ | ⟨columns, rows, next⟩ | next
      · obtain ⟨owner, -, -, own⟩ := allowed _ next
        exact ⟨owner, own⟩
      · obtain ⟨owner, -, -, own⟩ := allowed _ next
        exact ⟨owner, own⟩
      · obtain ⟨owner, -, own⟩ := allowed _ next
        exact ⟨owner, own⟩
    exact ⟨owned.2.trans (congrArg Commission.staging traced.order), traced.owner owned.1⟩

/-- The sample run is about to publish. -/
theorem published_once_submitting : ∃ target, nextTarget (publishing 65).2 = some target ∧
    (∃ made ∈ (publishing 65).1, made.records .publishSubmitted = true) ∧
    ∃ rows, stagingOf (publishing 65).1 = .holds rows := by
  obtain ⟨target, next⟩ := Option.isSome_iff_exists.1
    (by decide +kernel : (nextTarget (publishing 65).2).isSome)
  obtain ⟨comment, mode, columns, source, head⟩ := head_of_nextTarget next
  obtain ⟨-, publishes, -⟩ := published_once lawful_sampleDatabricks (runs_publishing 65)
  obtain ⟨-, submitted, -, -, -, rows, staged, -⟩ := publishes _ _ _ _ _ head
  exact ⟨target, next, submitted, rows, staged⟩

/-- A run is completed only after the statement of its publication has returned; a run that is
cancelled, blocked, or failed without doubt has never executed it. -/
theorem reports_are_true (lawful : env.lib.Lawful)
    (run : Runs (publishOne x env pipelineRun) events q) {report : WorkerCall}
    (next : q.head = some (.worker (.service report))) :
    (∀ a, report = .completeRun a → ∃ made ∈ events, made.published = true) ∧
    (∀ a, report = .failRun a → UncertainFailure a ∨ ∀ made ∈ events, made.publishes = false) ∧
    ((∃ impact, report = .cancelClaimedRun impact) ∨
        (∃ summary guardrail, report = .blockRun summary guardrail) ∨
        (∃ summary, report = .blockComputeReadiness summary) →
      ∀ made ∈ events, made.publishes = false) := by
  obtain ⟨v, traced, allowed⟩ := allowed_after lawful run
  have reports : v.Reports report := allowed _ next
  refine ⟨?_, ?_, ?_⟩
  · rintro a rfl
    exact traced.sent reports
  · rintro a rfl
    exact reports.imp id traced.unsent
  · rintro (⟨impact, rfl⟩ | ⟨summary, guardrail, rfl⟩ | ⟨summary, rfl⟩)
    · exact traced.unsent reports
    · exact traced.unsent reports
    · exact traced.unsent reports

/-- The sample run is about to be completed. -/
theorem reports_are_true_completing : completes (publishing 72).2 = true ∧
    ∃ made ∈ (publishing 72).1, made.published = true := by
  have next : completes (publishing 72).2 = true := by decide +kernel
  obtain ⟨a, head⟩ := head_of_completes next
  obtain ⟨completed, -⟩ := reports_are_true lawful_sampleDatabricks (runs_publishing 72) head
  exact ⟨next, completed a rfl⟩

end Worker

end Databricks

end DataMover
