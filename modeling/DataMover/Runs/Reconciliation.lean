import DataMover.Runs.Table

/-!
# The records of uncertainty

A run that ended with an uncertain destination says so four times: in its status, in
`reconciliation_required`, in `data_impact` and in the facts of `verification_json`.  `Reported` is
what every end of a run writes; it makes the records agree with each other and with the predicate that
`enqueue_run` reads (`Reported.agrees`).  A reconciliation review keeps them and takes exactly its own
run out of the set that blocks the pipeline.
-/

namespace DataMover

open PipelineRunStatus Transition

/-! ## Redaction of facts -/

/-- The facts that the service layer reads back. -/
def safetyKeys : List String :=
  ["data_impact", "reconciliation_required", "reconciliation_reviewed_at"]

/-- The values that the service layer writes under them. -/
inductive SafetyFact : Json → Prop
  | flag (b : Bool) : SafetyFact (.bool b)
  | impact (i : DataImpact) : SafetyFact (.str i.value)

/-- `redact_mapping` invents no fact and leaves the safety facts alone. -/
structure Redaction.KeepsFacts (R : Redaction) : Prop where
  absent : ∀ (d : Document) key, key ∈ safetyKeys → d.get key = none → (R.mapping d).get key = none
  kept : ∀ (d : Document) key value, key ∈ safetyKeys → SafetyFact value →
    d.get key = some value → (R.mapping d).get key = some value

/-- The document holds the facts of a run that ended with this impact. -/
structure SafetyFacts (facts : Document) (impact : DataImpact) (needs : Bool) : Prop where
  impact_eq : facts.get "data_impact" = some (.str impact.value)
  required_eq : facts.get "reconciliation_required" = some (.bool needs)

namespace SafetyFacts

variable {R : Redaction} {facts : Document} {impact : DataImpact} {needs : Bool}

theorem mapping (keeps : R.KeepsFacts) (h : SafetyFacts facts impact needs) :
    SafetyFacts (R.mapping facts) impact needs :=
  ⟨keeps.kept _ _ _ (by decide) (.impact impact) h.impact_eq,
    keeps.kept _ _ _ (by decide) (.flag needs) h.required_eq⟩

theorem update (h : SafetyFacts facts impact needs) {extra : Document}
    (himpact : extra.get "data_impact" = none)
    (hrequired : extra.get "reconciliation_required" = none) :
    SafetyFacts (facts.update extra) impact needs := by
  constructor
  · rw [Document.get_update_of_get_eq_none himpact, h.impact_eq]
  · rw [Document.get_update_of_get_eq_none hrequired, h.required_eq]

theorem setReviewed (h : SafetyFacts facts impact needs) (value : Json) :
    SafetyFacts (facts.set "reconciliation_reviewed_at" value) impact needs := by
  constructor
  · rw [Document.get_set, if_neg (by decide), h.impact_eq]
  · rw [Document.get_set, if_neg (by decide), h.required_eq]

end SafetyFacts

namespace PipelineRun

open PipelineRunStatus

/-! ## What the ends of a run report -/

/-- The stored facts say that reconciliation is required. -/
def factsRequireReconciliation (run : PipelineRun) : Bool :=
  match loads run.verificationJson with
  | some (.obj facts) => ((Document.get facts "reconciliation_required").map Json.truthy).getD false
  | _ => false

/-- The records of uncertainty agree. -/
structure Agrees (run : PipelineRun) : Prop where
  review_iff : run.requiresReconciliationReview = true ↔ run.status = .failedNeedsReconciliation
  column_iff : run.status = .failedNeedsReconciliation ↔ run.reconciliationRequired = true
  impact_iff : run.reconciliationRequired = true ↔ run.dataImpact = some .uncertain
  facts_iff : run.dataImpact = some .uncertain ↔ run.factsRequireReconciliation = true
  not_required_of_retryable : run.retryable = true → run.status ≠ .failedNeedsReconciliation

/-- What an end of a run writes: one verdict, in every record. -/
structure Reported (run : PipelineRun) (impact : DataImpact) (needs : Bool) : Prop where
  status_iff : run.status = .failedNeedsReconciliation ↔ needs = true
  required_eq : run.reconciliationRequired = needs
  dataImpact_eq : run.dataImpact = some impact
  uncertain_iff : impact = .uncertain ↔ needs = true
  facts : ∃ facts, run.verificationJson = dumps facts ∧ SafetyFacts facts impact needs
  retryable : run.retryable = true → needs = false

theorem saysUncertain_value (impact : DataImpact) :
    saysUncertain (some (.str impact.value)) = decide (impact = .uncertain) := by
  cases impact <;> decide

theorem Reported.agrees {run : PipelineRun} {impact : DataImpact} {needs : Bool}
    (h : run.Reported impact needs) : run.Agrees := by
  obtain ⟨facts, hj, hf⟩ := h.facts
  have stored : run.factsRequireReconciliation = needs := by
    simp [factsRequireReconciliation, hj, hf.required_eq, Json.truthy]
  have uncertain : run.dataImpact = some .uncertain ↔ needs = true := by
    rw [h.dataImpact_eq, Option.some.injEq, h.uncertain_iff]
  have review : run.requiresReconciliationReview = true ↔ needs = true := by
    cases needs with
    | true => simp [requiresReconciliationReview, h.status_iff.2 rfl]
    | false =>
      have hs : run.status ≠ .failedNeedsReconciliation := fun e => by simpa using h.status_iff.1 e
      have hu : impact ≠ .uncertain := fun e => by simpa using h.uncertain_iff.1 e
      simp [requiresReconciliationReview, hs, h.required_eq, hj, h.dataImpact_eq, hu, hf.impact_eq,
        saysUncertain_value, hf.required_eq, Json.truthy]
  refine ⟨review.trans h.status_iff.symm, h.status_iff.trans ?_, ?_, uncertain.trans ?_, ?_⟩
  · rw [h.required_eq]
  · rw [h.required_eq, uncertain]
  · rw [stored]
  · intro hr hs
    have := h.retryable hr
    simp [h.status_iff.1 hs] at this

/-! ## The ends of a run -/

section Ends

variable {R : Redaction} {now : Time} {run run' : PipelineRun} {token : Token}

theorem failureFacts_safety (keeps : R.KeepsFacts) (code : ErrorCode) (impact : DataImpact)
    (needs : Bool) (stage : Option Stage) :
    SafetyFacts (run.failureFacts R code impact needs stage) impact needs := by
  refine SafetyFacts.mapping keeps ⟨?_, ?_⟩
  · simp [Document.update, Document.get_set]
  · simp [Document.update, Document.get_set]

/-- The keys of `_failure_facts` that hold the verdict on the destination. -/
def verdictKeys : List String := ["data_impact", "reconciliation_required"]

/-- The calls of `fail_run` that leave the impact to its verdict, or know of a rollback. -/
structure FailArgs.Plain (run : PipelineRun) (a : FailArgs) : Prop where
  impact : a.dataImpact = none ∨ a.dataImpact = some .rolledBack
  cancelled : a.code = .known .cancelledByUser → a.dataImpact = none → run.loadedRows = 0
  facts : ∀ facts ∈ a.verificationFacts, ∀ key ∈ verdictKeys, Document.get facts key = none

theorem addVerificationFacts_safety (keeps : R.KeepsFacts) {facts : Document} {impact : DataImpact}
    {needs : Bool} (h : SafetyFacts facts impact needs) {extra : Option Document}
    (hextra : ∀ e ∈ extra, ∀ key ∈ verdictKeys, Document.get e key = none) :
    SafetyFacts (addVerificationFacts R facts extra) impact needs := by
  rcases extra with _ | e
  · exact h
  · have absent := hextra e rfl
    simp only [addVerificationFacts]
    split_ifs
    · exact h
    · exact h.update (keeps.absent _ _ (by decide) (absent _ (by decide)))
        (keeps.absent _ _ (by decide) (absent _ (by decide)))

theorem resolvedImpact_eq_uncertain_iff {a : FailArgs} (plain : a.Plain run) :
    run.resolvedImpact a = .uncertain ↔ run.effectiveNeedsReconciliation a = true := by
  rcases plain.impact with hi | hi
  · simp only [resolvedImpact, hi, Option.getD_none, failureDataImpact]
    split_ifs with needs cancelled loaded
    · simp [needs]
    · simp [plain.cancelled cancelled hi] at loaded
    · simp [needs]
    · simp [needs]
  · simp [resolvedImpact, effectiveNeedsReconciliation, hi]

theorem recordFailure_reported (keeps : R.KeepsFacts) {a : FailArgs} (plain : a.Plain run)
    (leaseToken : Option Token) :
    (run.recordFailure R now a leaseToken).Reported (run.resolvedImpact a)
      (run.effectiveNeedsReconciliation a) := by
  have ended : (if run.effectiveNeedsReconciliation a then failedNeedsReconciliation else failed) ∈
      terminalStatuses := by split_ifs <;> decide
  unfold recordFailure
  simp only [setStatus_of_terminal now _ _ _ ended]
  refine ⟨?_, rfl, rfl, resolvedImpact_eq_uncertain_iff plain, ⟨_, rfl, ?_⟩, ?_⟩
  · simp only [appendEvent]
    split_ifs with needs
    · simp [needs]
    · simp [needs]
  · exact addVerificationFacts_safety keeps (failureFacts_safety keeps _ _ _ _) plain.facts
  · simp [appendEvent]

theorem recordCancellation_reported (keeps : R.KeepsFacts) (retryable : run.retryable = false)
    (dataImpact : Option DataImpact) :
    ∃ impact needs, (run.recordCancellation R now dataImpact token).Reported impact needs := by
  unfold recordCancellation
  set impact := dataImpact.getD (if run.loadedRows != 0 then .uncertain else .unchanged)
  have ended : (if decide (impact = .uncertain) then failedNeedsReconciliation else cancelled) ∈
      terminalStatuses := by split_ifs <;> decide
  simp only [setStatus_of_terminal now _ _ _ ended]
  refine ⟨impact, decide (impact = .uncertain), ?_, rfl, rfl, by simp,
    ⟨_, rfl, failureFacts_safety keeps _ _ _ _⟩, ?_⟩
  · simp only [appendEvent]
    split_ifs with needs
    · simp [needs]
    · simp [needs]
  · simp [appendEvent, retryable]

theorem cancelBeforeDestinationWork_reported (keeps : R.KeepsFacts) (stage : Stage)
    (message : String) :
    (run.cancelBeforeDestinationWork R now stage message).Reported .unchanged false :=
  ⟨by simp [cancelBeforeDestinationWork, cancelColumns, appendEvent], rfl, rfl, by decide,
    ⟨_, rfl, failureFacts_safety keeps _ _ _ _⟩, fun _ => rfl⟩

theorem blockRun_reported (keeps : R.KeepsFacts) {summary : String} {guardrail : Document}
    (h : run.blockRun R now summary guardrail token = .ok run') :
    run'.Reported .unchanged false := by
  obtain ⟨-, h⟩ := guarded_ok_iff.1 h
  obtain ⟨next, hn, h⟩ := bind_eq_ok.1 h
  obtain ⟨-, rfl⟩ := (applyTransition_ok_iff ..).1 hn
  cases h
  exact ⟨by simp [appendEvent], rfl, rfl, by decide,
    ⟨_, rfl, failureFacts_safety keeps _ _ _ _⟩, fun _ => rfl⟩

theorem blockComputeReadiness_reported (keeps : R.KeepsFacts) {summary : String}
    (h : run.blockComputeReadiness R now summary token = .ok run') :
    run'.Reported .unchanged false := by
  obtain ⟨-, h⟩ := guarded_ok_iff.1 h
  cases h
  exact ⟨by simp [appendEvent], rfl, rfl, by decide,
    ⟨_, rfl, failureFacts_safety keeps _ _ _ _⟩, fun _ => rfl⟩

/-- `complete_run` stores the verification it is given, which has none of the safety facts. -/
theorem completeRun_agrees (keeps : R.KeepsFacts) (retryable : run.retryable = false)
    {a : CompleteArgs} (himpact : a.verification.get "data_impact" = none)
    (hrequired : a.verification.get "reconciliation_required" = none)
    (h : run.completeRun R now a token = .ok run') : run'.Agrees := by
  obtain ⟨-, h⟩ := guarded_ok_iff.1 h
  cases h
  have noImpact := keeps.absent _ _ (by decide) himpact
  have noFlag := keeps.absent _ _ (by decide) hrequired
  have changed : (if verifiedExactly a.verification then DataImpact.verified else .changed) ≠
      .uncertain := by split_ifs <;> decide
  constructor
  · simp [requiresReconciliationReview, appendEvent, noImpact, noFlag, changed, saysUncertain,
      setStatus_of_terminal now _ succeeded _ (by decide)]
  · simp [appendEvent, setStatus_of_terminal now _ succeeded _ (by decide)]
  · simp [appendEvent, setStatus_of_terminal now _ succeeded _ (by decide), changed]
  · simp [appendEvent, setStatus_of_terminal now _ succeeded _ (by decide), changed,
      factsRequireReconciliation, noFlag]
  · simp [appendEvent, setStatus_of_terminal now _ succeeded _ (by decide), retryable]

end Ends

end PipelineRun

/-! ## A running run has reported nothing -/

/-- The columns in which the end of a run is reported. -/
def PipelineRun.report (run : PipelineRun) :
    Option Stored × Option DataImpact × Bool × Option Time × Bool :=
  (run.verificationJson, run.dataImpact, run.reconciliationRequired, run.reconciliationReviewedAt,
    run.retryable)

/-- Nothing has been reported. -/
def PipelineRun.Unreported (run : PipelineRun) : Prop := run.report = (none, none, false, none, false)

section Unreported

open PipelineRun

variable {R : Redaction} {iso : Time → String} {now : Time} {run run' : PipelineRun}

theorem setStatus_report (now : Time) (run : PipelineRun) (s : PipelineRunStatus)
    (token : Option Token) :
    (run.setStatus now s token).report = run.report := by
  unfold setStatus
  split_ifs
  · rfl
  · cases token <;> rfl

/-- A call that leaves the run running reports nothing. -/
theorem effect_report {token : Token} {call : WorkerCall}
    (h : call.effect R now token run = .ok run') (running : ¬ run'.Terminal) :
    run'.report = run.report := by
  cases call with
  | requestComputeStart attempts userId connectionGeneration reserved =>
    obtain ⟨-, deadline, attemptId, rfl⟩ := WorkerCall.requestComputeStart_ok h
    rfl
  | deferRunForDatabricksCompute attempts poll =>
    obtain ⟨⟨released, r⟩, hd, rfl⟩ := map_eq_ok.1 h
    obtain ⟨-, hd⟩ := guarded_ok_iff.1 hd
    split_ifs at hd
    · cases hd
      exact absurd (cancelBeforeDestinationWork_terminal R now run _ _) running
    · split at hd <;> cases hd <;> rfl
  | renewLease leaseSeconds =>
    simp only [WorkerCall.effect, PipelineRun.renewLease, Except.ok.injEq] at h
    split_ifs at h <;> subst h <;> rfl
  | transition next message =>
    obtain ⟨-, h⟩ := guarded_ok_iff.1 h
    obtain ⟨r, hr, h⟩ := bind_eq_ok.1 h
    obtain ⟨-, rfl⟩ := (applyTransition_ok_iff ..).1 hr
    have same := setStatus_report now run next (some token)
    cases h
    split_ifs
    · exact same
    · exact same
  | heartbeat | addCounters | recordGuardrailReview =>
    obtain ⟨-, h⟩ := guarded_ok_iff.1 h
    cases h
    rfl
  | failRun a =>
    obtain ⟨-, h⟩ := guarded_ok_iff.1 h
    cases h
    exact absurd (recordFailure_terminal R now run a _) running
  | cancelClaimedRun dataImpact =>
    obtain ⟨-, h⟩ := guarded_ok_iff.1 h
    cases h
    exact absurd (recordCancellation_terminal R now run dataImpact token) running
  | blockRun summary guardrail =>
    obtain ⟨-, h⟩ := guarded_ok_iff.1 h
    obtain ⟨r, hr, h⟩ := bind_eq_ok.1 h
    obtain ⟨-, rfl⟩ := (applyTransition_ok_iff ..).1 hr
    cases h
    exact absurd (by decide : blocked ∈ terminalStatuses) running
  | blockComputeReadiness summary =>
    obtain ⟨-, h⟩ := guarded_ok_iff.1 h
    cases h
    exact absurd (by decide : blocked ∈ terminalStatuses) running
  | completeRun a =>
    obtain ⟨-, h⟩ := guarded_ok_iff.1 h
    cases h
    exact absurd (by decide : succeeded ∈ terminalStatuses) running

theorem requestCancel_report (running : ¬ (run.requestCancel R now).Terminal) :
    (run.requestCancel R now).report = run.report := by
  simp only [requestCancel] at running ⊢
  by_cases ht : run.Terminal
  · rw [if_pos ht]
  · rw [if_neg ht] at running ⊢
    by_cases hq : run.status = .queued
    · rw [if_pos hq] at running
      exact absurd (cancelBeforeDestinationWork_terminal R now _ _ _) running
    · rw [if_neg hq]
      rfl

theorem lease_report {stage : Stage} {workerId : String} {leaseSeconds : Int} {newToken : Token}
    {leased : Option Token}
    (h : run.lease R now stage workerId leaseSeconds newToken = .ok (run', leased))
    (running : ¬ run'.Terminal) : run'.report = run.report := by
  unfold lease at h
  split_ifs at h
  · cases h
    exact absurd (cancelBeforeDestinationWork_terminal R now _ _ _) running
  · obtain ⟨r, hr, h⟩ := bind_eq_ok.1 h
    obtain ⟨-, rfl⟩ := (applyTransition_ok_iff ..).1 hr
    cases h
    rfl

theorem claim_report {workerId : String} {leaseSeconds : Int} {newToken : Token}
    {leased : Option Token}
    (h : run.claim R now workerId leaseSeconds newToken = .ok (run', leased))
    (running : ¬ run'.Terminal) : run'.report = run.report := by
  unfold claim at h
  split_ifs at h
  · cases h
    exact absurd (recordFailure_terminal R now run workerLost none) running
  · have same := lease_report h running
    exact same
  · exact lease_report h running

/-- A run that has reported nothing has nothing to review. -/
theorem not_requires_of_unreported (unreported : run.Unreported) (running : ¬ run.Terminal) :
    run.requiresReconciliationReview = false := by
  simp only [Unreported, report, Prod.mk.injEq] at unreported
  obtain ⟨hj, hi, hr, -, -⟩ := unreported
  have notNeeds : run.status ≠ .failedNeedsReconciliation := by
    intro e; rw [Terminal, e] at running; exact running (by decide)
  have notEnded : run.status ∉ [failed, cancelled] := by
    intro hm
    have : ∀ s ∈ [failed, cancelled], s ∈ terminalStatuses := by decide
    exact running (this _ hm)
  simp [requiresReconciliationReview, notNeeds, hr, hj, loads, hi, saysUncertain, notEnded]

theorem RowStep.unreported {call : ServiceCall} (hs : RowStep R iso now run call run')
    (consistent : run.lifecycle.Consistent) (ih : ¬ run.Terminal → run.Unreported)
    (running' : ¬ run'.Terminal) : run'.Unreported := by
  have running : ¬ run.Terminal := fun ht =>
    running' (terminal_of_lifecycle run' ((hs.move consistent).eq_of_terminal consistent ht) ht)
  have same : run'.report = run.report := by
    cases hs with
    | requestCancel => exact requestCancel_report running'
    | review userId h =>
      unfold recordReconciliationReview at h
      simp [not_requires_of_unreported (ih running) running] at h
    | claim active runId hc h => exact claim_report h running'
    | event => rfl
    | worker h => exact effect_report h running'
  exact same.trans (ih running)

/-- In every reachable state, a run that has not ended has reported nothing. -/
theorem unreported_of_reachable {A : PipelineRun → WorkerCall → Prop} {s : Time × Database}
    (h : ((runSystem R iso).restrict (Admits A)).Reachable s) :
    ∀ run ∈ s.2.runs, ¬ run.Terminal → run.Unreported := by
  have both := rows_invariant
    (I := fun _ run => run.lifecycle.Consistent ∧ (¬ run.Terminal → run.Unreported)) ?_ ?_ h
  · exact fun run hr => (both run hr).2
  · exact fun db now a _ _ => ⟨newRun_consistent db now a, fun _ => rfl⟩
  · intro _ now run call run' hs _ ⟨consistent, ih⟩
    exact ⟨(hs.move consistent).consistent consistent, hs.unreported consistent ih⟩

end Unreported

/-! ## Reviews -/

section Reviews

open PipelineRun

variable {R : Redaction} {iso : Time → String} {now : Time} {run run' : PipelineRun}

/-- Two states of a row that differ in its events only. -/
def SameButEvents (run run' : PipelineRun) : Prop :=
  ∃ sequence events, run' = { run with nextEventSequence := sequence, events := events }

theorem SameButEvents.of_eq (h : run' = run) : SameButEvents run run' := ⟨_, _, h⟩

/-- Nothing but a review changes more than the events of a terminal row. -/
theorem RowStep.sameButEvents_or_review {call : ServiceCall} (hs : RowStep R iso now run call run')
    (consistent : run.lifecycle.Consistent) (ht : run.Terminal) :
    SameButEvents run run' ∨ run.recordReconciliationReview R iso now = .ok run' := by
  obtain ⟨-, unheld, -⟩ := consistent.unleased_of_terminal ht
  cases hs with
  | requestCancel => exact .inl (.of_eq (if_pos ht))
  | event => exact .inl ⟨_, _, rfl⟩
  | review userId h => exact .inr h
  | claim active runId hc h =>
    simp only [claimable, Bool.or_eq_true, Bool.and_eq_true, decide_eq_true_eq] at hc
    rcases hc with ⟨hq, -⟩ | ⟨owned, -⟩
    · rw [Terminal, hq] at ht
      exact absurd ht queued_notMem_terminal
    · exact absurd ht (notMem_terminal_of_mem_owned owned)
  | worker h =>
    refine .inl (.of_eq ((WorkerCall.effect_move h).1.resolve_left fun held => ?_))
    have := held.1
    rw [show run.leaseToken = none from unheld] at this
    cases this

theorem recordReconciliationReview_ok (R : Redaction) (iso : Time → String) (now : Time)
    (h : run.requiresReconciliationReview = true) :
    ∃ reviewed, run.recordReconciliationReview R iso now = .ok reviewed ∧
      reviewed.identity = run.identity ∧ reviewed.status = run.status ∧
      reviewed.dataImpact = run.dataImpact ∧
      reviewed.reconciliationRequired = run.reconciliationRequired ∧
      reviewed.reconciliationReviewed = true := by
  unfold recordReconciliationReview
  rw [h, Bool.not_true, if_neg Bool.false_ne_true]
  exact ⟨_, rfl, rfl, rfl, rfl, rfl, rfl⟩

/-- A review keeps what the run reported. -/
theorem PipelineRun.Reported.review (keeps : R.KeepsFacts) {impact : DataImpact} {needs : Bool}
    (reported : run.Reported impact needs)
    (h : run.recordReconciliationReview R iso now = .ok run') : run'.Reported impact needs := by
  obtain ⟨facts, hj, hf⟩ := reported.facts
  unfold recordReconciliationReview at h
  split_ifs at h
  cases h
  refine ⟨reported.status_iff, reported.required_eq, reported.dataImpact_eq, reported.uncertain_iff,
    ⟨_, rfl, ?_⟩, reported.retryable⟩
  rw [hj]
  exact (hf.setReviewed _).mapping keeps

/-- A reviewed row leaves the set of unresolved rows, and no other row does. -/
theorem filter_unresolved_putRun (db : Database) {reviewed : PipelineRun}
    (resolved : reviewed.unresolved = false) (userId pipelineId : String) :
    ((db.putRun reviewed).runsOf userId pipelineId).filter unresolved =
      ((db.runsOf userId pipelineId).filter unresolved).filter fun r => r.id ≠ reviewed.id := by
  simp only [Database.runsOf, Database.putRun, List.filter_filter]
  generalize db.runs = runs
  induction runs with
  | nil => rfl
  | cons r rest ih =>
    rw [List.map_cons, List.filter_cons, List.filter_cons, ih]
    by_cases hid : r.id = reviewed.id
    · simp [hid, resolved]
    · simp [hid]

end Reviews

/-! ## Agreement -/

section Agreement

open PipelineRun

variable {R : Redaction} {iso : Time → String} {now : Time} {run run' : PipelineRun}

/-- The calls that end a run and report its end: `transition` alone reports nothing, and the
verification of `complete_run` holds no verdict. -/
def PlainEnd (run : PipelineRun) : ServiceCall → Prop
  | .worker _ _ (.failRun a) => a.Plain run
  | .worker _ _ (.cancelClaimedRun impact) =>
    impact ∈ [none, some .unchanged, some .rolledBack, some .uncertain]
  | .worker _ _ (.completeRun a) => ∀ key ∈ verdictKeys, a.verification.get key = none
  | .worker _ _ (.transition _ _) => False
  | _ => True

/-- The end of the run is on record, or the run succeeded. -/
def Settled (run : PipelineRun) : Prop :=
  (∃ impact needs, run.Reported impact needs) ∨
    run.Agrees ∧ run.requiresReconciliationReview = false

theorem Settled.agrees (h : Settled run) : run.Agrees := by
  rcases h with ⟨impact, needs, reported⟩ | ⟨agrees, -⟩
  · exact reported.agrees
  · exact agrees

theorem workerLost_plain (run : PipelineRun) : workerLost.Plain run :=
  ⟨.inl rfl, nofun, nofun⟩

theorem lease_settled (keeps : R.KeepsFacts) {stage : Stage} {workerId : String}
    {leaseSeconds : Int} {newToken : Token} {leased : Option Token}
    (h : run.lease R now stage workerId leaseSeconds newToken = .ok (run', leased))
    (ended : run'.Terminal) : Settled run' := by
  unfold lease at h
  split_ifs at h
  · cases h
    exact .inl ⟨_, _, cancelBeforeDestinationWork_reported keeps _ _⟩
  · obtain ⟨r, hr, h⟩ := bind_eq_ok.1 h
    obtain ⟨-, rfl⟩ := (applyTransition_ok_iff ..).1 hr
    cases h
    exact absurd ended validating_notMem_terminal

theorem effect_settled (keeps : R.KeepsFacts) {token : Token} {call : WorkerCall}
    (h : call.effect R now token run = .ok run') (running : ¬ run.Terminal)
    (unreported : run.Unreported) (plain : PlainEnd run (.worker run.id token call))
    (ended : run'.Terminal) : Settled run' := by
  have retryable : run.retryable = false := by
    simp only [Unreported, report, Prod.mk.injEq] at unreported
    exact unreported.2.2.2.2
  cases call with
  | requestComputeStart attempts userId connectionGeneration reserved =>
    obtain ⟨-, deadline, attemptId, rfl⟩ := WorkerCall.requestComputeStart_ok h
    exact absurd ended running
  | deferRunForDatabricksCompute attempts poll =>
    obtain ⟨⟨released, r⟩, hd, rfl⟩ := map_eq_ok.1 h
    obtain ⟨-, hd⟩ := guarded_ok_iff.1 hd
    split_ifs at hd
    · cases hd
      exact .inl ⟨_, _, cancelBeforeDestinationWork_reported keeps _ _⟩
    · split at hd
      · cases hd
        exact absurd ended running
      · cases hd
        exact absurd ended queued_notMem_terminal
  | blockComputeReadiness summary =>
    exact .inl ⟨_, _, blockComputeReadiness_reported keeps h⟩
  | renewLease leaseSeconds =>
    simp only [WorkerCall.effect, PipelineRun.renewLease, Except.ok.injEq] at h
    split_ifs at h <;> subst h <;> exact absurd ended running
  | transition next message => exact plain.elim
  | heartbeat | addCounters | recordGuardrailReview =>
    obtain ⟨-, h⟩ := guarded_ok_iff.1 h
    cases h
    exact absurd ended running
  | blockRun summary guardrail => exact .inl ⟨_, _, blockRun_reported keeps h⟩
  | completeRun a =>
    have agrees := completeRun_agrees keeps retryable (plain _ (by decide)) (plain _ (by decide)) h
    obtain ⟨-, h⟩ := guarded_ok_iff.1 h
    cases h
    refine .inr ⟨agrees, Bool.eq_false_iff.2 fun review => ?_⟩
    exact absurd (agrees.review_iff.1 review) (by simp [appendEvent])
  | failRun a =>
    obtain ⟨-, h⟩ := guarded_ok_iff.1 h
    cases h
    exact .inl ⟨_, _, recordFailure_reported keeps plain _⟩
  | cancelClaimedRun dataImpact =>
    obtain ⟨-, h⟩ := guarded_ok_iff.1 h
    cases h
    exact .inl (recordCancellation_reported keeps retryable dataImpact)

theorem RowStep.settled {call : ServiceCall} (keeps : R.KeepsFacts)
    (hs : RowStep R iso now run call run') (running : ¬ run.Terminal)
    (unreported : run.Unreported) (plain : PlainEnd run call) (ended : run'.Terminal) :
    Settled run' := by
  cases hs with
  | requestCancel userId =>
    simp only [PipelineRun.requestCancel, if_neg running] at ended ⊢
    by_cases hq : run.status = .queued
    · rw [if_pos hq]
      exact .inl ⟨_, _, cancelBeforeDestinationWork_reported keeps _ _⟩
    · rw [if_neg hq] at ended
      exact absurd ended running
  | review userId h =>
    unfold recordReconciliationReview at h
    simp [not_requires_of_unreported unreported running] at h
  | claim active runId hc h =>
    unfold PipelineRun.claim at h
    split_ifs at h
    · cases h
      exact .inl ⟨_, _, recordFailure_reported keeps (workerLost_plain run) none⟩
    · exact lease_settled keeps h ended
    · exact lease_settled keeps h ended
  | event => exact absurd ended running
  | worker h => exact effect_settled keeps h running unreported plain ended

theorem SameButEvents.settled (same : SameButEvents run run') (h : Settled run) : Settled run' := by
  obtain ⟨sequence, events, rfl⟩ := same
  rcases h with ⟨impact, needs, reported⟩ | ⟨agrees, resolved⟩
  · exact .inl ⟨impact, needs, reported.status_iff, reported.required_eq, reported.dataImpact_eq,
      reported.uncertain_iff, reported.facts, reported.retryable⟩
  · exact .inr ⟨⟨agrees.review_iff, agrees.column_iff, agrees.impact_iff, agrees.facts_iff,
      agrees.not_required_of_retryable⟩, resolved⟩

/-- A settled row stays settled. -/
theorem RowStep.settled_of_settled {call : ServiceCall} (keeps : R.KeepsFacts)
    (hs : RowStep R iso now run call run') (consistent : run.lifecycle.Consistent)
    (ended : run.Terminal) (settled : Settled run) : Settled run' := by
  rcases hs.sameButEvents_or_review consistent ended with same | review
  · exact same.settled settled
  · rcases settled with ⟨impact, needs, reported⟩ | ⟨-, resolved⟩
    · exact .inl ⟨impact, needs, reported.review keeps review⟩
    · simp [recordReconciliationReview, resolved] at review

theorem settled_of_steps (keeps : R.KeepsFacts) {s s' : Time × Database}
    (h : (runSystem R iso).Reachable s) (hs : (runSystem R iso).Steps s s') {run : PipelineRun}
    (hr : run ∈ s.2.runs) (ended : run.Terminal) (settled : Settled run) :
    ∃ run' ∈ s'.2.runs, run'.id = run.id ∧ run'.Terminal ∧ Settled run' := by
  have along := h.guarantee (G := fun s s' => ∀ run ∈ s.2.runs, run.Terminal → Settled run →
    ∃ run' ∈ s'.2.runs, run'.id = run.id ∧ run'.Terminal ∧ Settled run') ?_ ?_ ?_ hs
  · exact along run hr ended settled
  · exact fun s run hr ended settled => ⟨run, hr, rfl, ended, settled⟩
  · intro s t u hst htu run hr ended settled
    obtain ⟨run₁, h₁, hid₁, ended₁, settled₁⟩ := hst run hr ended settled
    obtain ⟨run₂, h₂, hid₂, ended₂, settled₂⟩ := htu run₁ h₁ ended₁ settled₁
    exact ⟨run₂, h₂, hid₂.trans hid₁, ended₂, settled₂⟩
  · intro s i s' h hs run hr ended settled
    have consistent := consistent_of_reachable (reachable_admitsAll h) run hr
    obtain ⟨run', hr', hid, rfl | hstep⟩ := row_of_step hs hr
    · exact ⟨run', hr', rfl, ended, settled⟩
    · have same := (hstep.move consistent).eq_of_terminal consistent ended
      exact ⟨run', hr', hid, terminal_of_lifecycle run' same ended,
        hstep.settled_of_settled keeps consistent ended settled⟩

/-- However a run ends, and ever after, its records agree, and a review of an uncertain run takes exactly
that run out of the set that blocks its pipeline. -/
theorem records_agree_of_steps (keeps : R.KeepsFacts) {s s₁ s₂ : Time × Database}
    {call : ServiceCall} (h : (runSystem R iso).Reachable s)
    (hs : (runSystem R iso).Step s (now, call) s₁) (hr : run ∈ s.2.runs) (running : ¬ run.Terminal)
    (hr' : s₁.2.getRun run.id = some run') (ended : run'.Terminal) (plain : PlainEnd run call)
    (later : (runSystem R iso).Steps s₁ s₂) :
    ∃ row, s₂.2.getRun run.id = some row ∧
      (row.requiresReconciliationReview = true ↔ row.status = .failedNeedsReconciliation) ∧
      (row.status = .failedNeedsReconciliation ↔ row.reconciliationRequired = true) ∧
      (row.reconciliationRequired = true ↔ row.dataImpact = some .uncertain) ∧
      (row.dataImpact = some .uncertain ↔ row.factsRequireReconciliation = true) ∧
      (row.retryable = true → row.status ≠ .failedNeedsReconciliation) ∧
      (row.status = .failedNeedsReconciliation → ∀ t, ∃ reviewed,
        s₂.2.step R iso t (.recordReconciliationReview row.userId row.id) =
          .ok (s₂.2.putRun reviewed) ∧
        reviewed.status = row.status ∧ reviewed.dataImpact = row.dataImpact ∧
        reviewed.reconciliationRequired = row.reconciliationRequired ∧
        ∀ userId pipelineId,
          ((s₂.2.putRun reviewed).runsOf userId pipelineId).filter unresolved =
            ((s₂.2.runsOf userId pipelineId).filter unresolved).filter fun r => r.id ≠ row.id) := by
  obtain ⟨row₁, hrow₁, hid₁, hstep⟩ := row_of_step hs hr
  obtain rfl : row₁ = run' := by
    rw [← hid₁, Database.getRun_of_mem hrow₁] at hr'
    exact Option.some.inj hr'
  have settled₁ : Settled row₁ := by
    rcases hstep with rfl | hstep
    · exact absurd ended running
    · exact hstep.settled keeps running
        (unreported_of_reachable (reachable_admitsAll h) run hr running) plain ended
  obtain ⟨row, hrow, hid, -, settled⟩ := settled_of_steps keeps (h.step hs) later hrow₁ ended settled₁
  have agrees := settled.agrees
  have found : s₂.2.getRun row.id = some row := Database.getRun_of_mem hrow
  refine ⟨row, hid.trans hid₁ ▸ found, agrees.review_iff, agrees.column_iff, agrees.impact_iff,
    agrees.facts_iff, agrees.not_required_of_retryable, fun needs t => ?_⟩
  obtain ⟨reviewed, hok, hident, hstatus, himpact, hrequired, hreviewed⟩ :=
    recordReconciliationReview_ok R iso t (agrees.review_iff.2 needs)
  have sameId : reviewed.id = row.id := congrArg Prod.fst hident
  refine ⟨reviewed, ?_, hstatus, himpact, hrequired, fun userId pipelineId => ?_⟩
  · simp only [Database.step, Database.ownedRun, found, ne_eq, not_true, if_false]
    rw [show (Except.ok row >>= fun run => s₂.2.putRun <$> run.recordReconciliationReview R iso t) =
      s₂.2.putRun <$> row.recordReconciliationReview R iso t from rfl, hok]
    rfl
  · rw [← sameId]
    exact filter_unresolved_putRun _ (by simp [unresolved, hreviewed]) userId pipelineId

end Agreement

theorem Redaction.trivial_keepsFacts : Redaction.trivial.KeepsFacts :=
  ⟨fun _ _ _ h => h, fun _ _ _ _ _ h => h⟩

end DataMover
