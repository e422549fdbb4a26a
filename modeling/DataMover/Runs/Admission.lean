import DataMover.Runs.Reconciliation

/-!
# Admission

`enqueue_run` refuses a pipeline while one of its runs is unresolved.  The check is made when a run is
enqueued and never again: two runs that were queued together can end and load in any order.  What the
check does give is that every run of a pipeline with an unresolved run was already in the table when
that run ended.
-/

namespace DataMover

open PipelineRunStatus Transition PipelineRun

variable {R : Redaction} {iso : Time → String} {now : Time} {run run' : PipelineRun}
  {s s' : Time × Database}

/-- The verification of `complete_run` holds no verdict on the destination. -/
def PlainVerification (_ : PipelineRun) : WorkerCall → Prop
  | .completeRun a => ∀ key ∈ verdictKeys, a.verification.get key = none
  | _ => True

/-- The service layer whose workers complete runs with plain verifications. -/
abbrev plainSystem (R : Redaction) (iso : Time → String) :
    System (Time × Database) (Time × ServiceCall) :=
  (runSystem R iso).restrict (Admits PlainVerification)

/-! ## What is unresolved -/

/-- A run that was blocked or succeeded has nothing to review. -/
def Reviewable (run : PipelineRun) : Prop :=
  run.status ∈ [blocked, succeeded] → run.requiresReconciliationReview = false

theorem reviewable_of_settled (h : Settled run) : Reviewable run := by
  intro hs
  refine Bool.eq_false_iff.2 fun review => ?_
  rw [h.agrees.review_iff.1 review] at hs
  exact absurd hs (by decide)

theorem reviewable_of_running (h : ¬ run.Terminal) : Reviewable run := by
  intro hs
  have ended : ∀ t ∈ [blocked, succeeded], t ∈ terminalStatuses := by decide
  exact absurd (ended _ hs) h

theorem recordFailure_reviewable (a : FailArgs) (token : Option Token) :
    Reviewable (run.recordFailure R now a token) := by
  intro hs
  have status : (run.recordFailure R now a token).status =
      if run.effectiveNeedsReconciliation a then failedNeedsReconciliation else failed := by
    simp [recordFailure, appendEvent]
  rw [status] at hs
  split_ifs at hs <;> exact absurd hs (by decide)

theorem recordCancellation_reviewable (impact : Option DataImpact) (token : Token) :
    Reviewable (run.recordCancellation R now impact token) := by
  intro hs
  obtain ⟨needs, status⟩ : ∃ needs : Bool, (run.recordCancellation R now impact token).status =
      if needs then failedNeedsReconciliation else cancelled := ⟨_, setStatus_status ..⟩
  rw [status] at hs
  split_ifs at hs <;> exact absurd hs (by decide)

/-- A status without a report only needs a review when it is a failure or a cancellation. -/
theorem reviewable_of_unreported (h : run.Unreported) : Reviewable run := by
  intro hs
  simp only [Unreported, report, Prod.mk.injEq] at h
  obtain ⟨hj, hi, hr, -, -⟩ := h
  have apart : ∀ t ∈ [blocked, succeeded], t ≠ failedNeedsReconciliation ∧ t ∉ [failed, cancelled] := by
    decide
  obtain ⟨notNeeds, notFailed⟩ := apart _ hs
  simp [requiresReconciliationReview, notNeeds, hr, hj, loads, hi, saysUncertain, notFailed]

theorem transition_reviewable {status : PipelineRunStatus} {message : String} {token : Token}
    (h : run.transition R now status message token = .ok run') (unreported : run.Unreported) :
    Reviewable run' := by
  obtain ⟨-, h⟩ := guarded_ok_iff.1 h
  obtain ⟨r, hr, h⟩ := bind_eq_ok.1 h
  obtain ⟨-, rfl⟩ := (applyTransition_ok_iff ..).1 hr
  have same := (setStatus_report now run status (some token)).trans unreported
  cases h
  split_ifs
  · exact reviewable_of_unreported same
  · exact reviewable_of_unreported same

theorem RowStep.reviewable (keeps : R.KeepsFacts) {call : ServiceCall}
    (hs : RowStep R iso now run call run') (consistent : run.lifecycle.Consistent)
    (unreported : ¬ run.Terminal → run.Unreported)
    (plain : ∀ token c, call = .worker run.id token c → PlainVerification run c)
    (ih : Reviewable run) : Reviewable run' := by
  by_cases before : run.Terminal
  · rcases hs.sameButEvents_or_review consistent before with ⟨sequence, events, rfl⟩ | review
    · exact ih
    · intro ended
      have same : run'.status = run.status :=
        congrArg Lifecycle.status (recordReconciliationReview_lifecycle review)
      simp [recordReconciliationReview, ih (same ▸ ended)] at review
  by_cases ended : run'.Terminal
  · have settled (plainEnd : PlainEnd run call) : Reviewable run' :=
      reviewable_of_settled (hs.settled keeps before (unreported before) plainEnd ended)
    cases hs with
    | requestCancel | review | claim | event => exact settled trivial
    | @worker token c _ h =>
      cases c with
      | failRun a =>
        obtain ⟨-, h⟩ := guarded_ok_iff.1 h
        cases h
        exact recordFailure_reviewable a _
      | cancelClaimedRun impact =>
        obtain ⟨-, h⟩ := guarded_ok_iff.1 h
        cases h
        exact recordCancellation_reviewable impact token
      | transition next message => exact transition_reviewable h (unreported before)
      | completeRun a => exact settled (plain token _ rfl)
      | requestComputeStart | deferRunForDatabricksCompute | blockComputeReadiness | heartbeat
      | renewLease | addCounters | recordGuardrailReview | blockRun => exact settled trivial
  · exact reviewable_of_running ended

/-! ## The invariants of the table -/

/-- The run belongs to the owner of its pipeline. -/
def OwnedByPipeline (pipelines : List PipelineDefinition) (run : PipelineRun) : Prop :=
  ∃ p id, run.pipelineDefinitionId = some id ∧
    pipelines.find? (fun p => p.id = id) = some p ∧ p.userId = run.userId

theorem owned_of_reachable (h : (plainSystem R iso).Reachable s) :
    ∀ run ∈ s.2.runs, OwnedByPipeline s.2.pipelines run := by
  refine rows_invariant (I := OwnedByPipeline) ?_ ?_ h
  · intro db now a db' enqueues
    obtain ⟨p, hp, owner⟩ := enqueues.owned
    exact ⟨p, a.pipelineId, rfl, hp, owner⟩
  · rintro pipelines now run call run' hs - ⟨p, id, hid, hp, owner⟩
    have same := hs.identity
    simp only [identity, Prod.mk.injEq] at same
    exact ⟨p, id, by rw [same.2.1, hid], hp, by rw [same.2.2.1, owner]⟩

theorem reviewable_of_reachable (keeps : R.KeepsFacts) (h : (plainSystem R iso).Reachable s) :
    ∀ run ∈ s.2.runs, Reviewable run := by
  have all := rows_invariant (I := fun _ run => run.lifecycle.Consistent ∧
    (¬ run.Terminal → run.Unreported) ∧ Reviewable run) ?_ ?_ h
  · exact fun run hr => (all run hr).2.2
  · exact fun db now a _ _ => ⟨newRun_consistent db now a, fun _ => rfl, nofun⟩
  · intro _ now run call run' hs plain ⟨consistent, unreported, ih⟩
    exact ⟨(hs.move consistent).consistent consistent, hs.unreported consistent unreported,
      hs.reviewable keeps consistent unreported plain ih⟩

/-- An ended run that still needs its review is one that `enqueue_run` looks for. -/
theorem unresolved_of_requires (reviewable : Reviewable run) (ended : run.Terminal)
    (needs : run.requiresReconciliationReview = true) (unreviewed : run.reconciliationReviewed = false) :
    run.unresolved = true := by
  have status : run.status ∈ [failed, failedNeedsReconciliation, cancelled] := by
    have split : ∀ t ∈ terminalStatuses,
        t ∈ [blocked, succeeded] ∨ t ∈ [failed, failedNeedsReconciliation, cancelled] := by decide
    rcases split _ ended with hs | hs
    · rw [reviewable hs] at needs
      cases needs
    · exact hs
  simp [unresolved, status, needs, unreviewed]

/-! ## Admission -/

theorem reviewed_of_review (h : run.recordReconciliationReview R iso now = .ok run') :
    run'.reconciliationReviewed = true := by
  unfold recordReconciliationReview at h
  split_ifs at h
  cases h
  rfl

/-- The row of an ended run stays as it is, but for its events, until it is reviewed. -/
theorem ended_row_of_step {i : Time × ServiceCall} (h : (plainSystem R iso).Reachable s)
    (hs : (plainSystem R iso).Step s i s') (hr : run ∈ s.2.runs) (ended : run.Terminal) :
    ∃ run' ∈ s'.2.runs, run'.id = run.id ∧ run'.Terminal ∧
      (SameButEvents run run' ∨ run'.reconciliationReviewed = true) := by
  have consistent := consistent_of_reachable h run hr
  obtain ⟨run', hr', hid, rfl | hstep⟩ := row_of_step hs.2 hr
  · exact ⟨run', hr', rfl, ended, .inl (.of_eq rfl)⟩
  · have same := (hstep.move consistent).eq_of_terminal consistent ended
    exact ⟨run', hr', hid, terminal_of_lifecycle run' same ended,
      (hstep.sameButEvents_or_review consistent ended).imp_right reviewed_of_review⟩

/-- A step that leaves an ended run unreviewed admits no run of its pipeline. -/
theorem admitted_of_step (keeps : R.KeepsFacts) {i : Time × ServiceCall} {a b : PipelineRun}
    (h : (plainSystem R iso).Reachable s) (hs : (plainSystem R iso).Step s i s')
    (ha : a ∈ s.2.runs) (ended : a.Terminal) (needs : a.requiresReconciliationReview = true)
    (unreviewed : a.reconciliationReviewed = false) (hb : b ∈ s'.2.runs)
    (pipeline : b.pipelineDefinitionId = a.pipelineDefinitionId) :
    ∃ b₀ ∈ s.2.runs, b₀.identity = b.identity := by
  obtain ⟨now, call⟩ := i
  obtain ⟨-, rfl⟩ := runSystem_step_iff.1 hs.2
  have unresolved := unresolved_of_requires (reviewable_of_reachable keeps h a ha) ended needs
    unreviewed
  simp only at hb
  rcases perform_cases now s.2 call with same | ⟨args, -, new⟩ | ⟨row, hrow, row', hstep, put⟩
  · exact ⟨b, by rwa [same] at hb, rfl⟩
  · obtain ⟨hf, inserted⟩ := new.inserted
    rw [inserted] at hb
    rcases List.mem_append.1 hb with hb | hb
    · exact ⟨b, hb, rfl⟩
    · -- the guard of `enqueue_run` has seen `a`
      rw [List.mem_singleton.1 hb] at pipeline
      obtain ⟨p, id, hid, hp, owner⟩ := owned_of_reachable h a ha
      obtain ⟨p', hp', owner'⟩ := new.owned
      have sameId : args.pipelineId = id := by
        rw [hid] at pipeline
        exact Option.some.inj pipeline
      have sameOwner : a.userId = args.userId := by
        rw [sameId, hp] at hp'
        rw [← owner, ← owner', Option.some.inj hp']
      have seen : a ∈ s.2.runsOf args.userId args.pipelineId := by
        simp [Database.runsOf, ha, sameOwner, hid, sameId]
      rw [new.resolved a seen] at unresolved
      cases unresolved
  · rw [put, Database.mem_putRun] at hb
    rcases hb with ⟨hb, -⟩ | ⟨rfl, -⟩
    · exact ⟨b, hb, rfl⟩
    · exact ⟨row, hrow, hstep.identity.symm⟩

/-- Whatever the other runs of a pipeline do while one of its runs is unresolved, they were enqueued
before that run ended. -/
theorem admitted_before_unresolved (keeps : R.KeepsFacts)
    (h : (plainSystem R iso).Reachable s) (hs : (plainSystem R iso).Steps s s')
    {a₀ a b : PipelineRun} (ha₀ : a₀ ∈ s.2.runs) (ended : a₀.Terminal) (ha : a ∈ s'.2.runs)
    (hid : a.id = a₀.id) (needs : a.requiresReconciliationReview = true)
    (unreviewed : a.reconciliationReviewed = false) (hb : b ∈ s'.2.runs)
    (pipeline : b.pipelineDefinitionId = a.pipelineDefinitionId) :
    ∃ b₀ ∈ s.2.runs, b₀.identity = b.identity := by
  -- in every state up to `s'` the row of the unresolved run is already `a`
  suffices along : ∃ r ∈ s'.2.runs, r.id = a₀.id ∧ r.Terminal ∧
      (r.requiresReconciliationReview = true → r.reconciliationReviewed = false →
        ∀ b ∈ s'.2.runs, b.pipelineDefinitionId = r.pipelineDefinitionId →
          ∃ b₀ ∈ s.2.runs, b₀.identity = b.identity) by
    obtain ⟨r, hr, hrid, -, admitted⟩ := along
    obtain rfl : r = a := Database.eq_of_id_eq hr ha (hrid.trans hid.symm)
    exact admitted needs unreviewed b hb pipeline
  clear ha hid needs unreviewed hb pipeline
  induction hs with
  | refl => exact ⟨a₀, ha₀, rfl, ended, fun _ _ b hb _ => ⟨b, hb, rfl⟩⟩
  | @tail t u hst next ih =>
    obtain ⟨i, hi⟩ := next
    obtain ⟨r, hr, hrid, hrt, admitted⟩ := ih
    have reachable := h.steps hst
    obtain ⟨r', hr', hid', ended', hrr'⟩ := ended_row_of_step reachable hi hr hrt
    refine ⟨r', hr', hid'.trans hrid, ended', fun needs unreviewed b hb pipeline => ?_⟩
    rcases hrr' with ⟨sequence, events, rfl⟩ | reviewed
    · obtain ⟨b₁, hb₁, hident⟩ :=
        admitted_of_step keeps reachable hi hr hrt needs unreviewed hb pipeline
      have pipeline₁ : b₁.pipelineDefinitionId = r.pipelineDefinitionId := by
        rw [← pipeline]
        exact congrArg (fun p => p.2.1) hident
      obtain ⟨b₀, hb₀, hident₀⟩ := admitted needs unreviewed b₁ hb₁ pipeline₁
      exact ⟨b₀, hb₀, hident₀.trans hident⟩
    · rw [reviewed] at unreviewed
      cases unreviewed

/-! ## Two runs that were queued together -/

/-- Two runs of one pipeline are enqueued; the first is claimed, loads and fails uncertainly. -/
def firstFails : List (Time × ServiceCall) :=
  let enqueue (id : String) : ServiceCall := .enqueueRun {
    userId := "user", pipelineId := "pipeline", snapshotJson := "", routeAllowed := true,
    writerEnabled := true, newId := id }
  let token : Token := ⟨"token", token_ne_empty⟩
  [(1, enqueue "first"), (2, enqueue "second"),
    (3, .claimRun (fun _ => true) "worker" 60 none token),
    (4, .worker "first" token (.transition .extracting "")),
    (5, .worker "first" token (.transition .loading "")),
    (6, .worker "first" token (.failRun { code := .known .partialWrite, summary := "" }))]

/-- The second run is claimed and extracts. -/
def secondExtracts : List (Time × ServiceCall) :=
  [(7, .claimRun (fun _ => true) "worker" 60 none ⟨"other", by decide⟩),
    (8, .worker "second" ⟨"other", by decide⟩ (.transition .extracting ""))]

/-- The second run starts to load. -/
def secondLoads : Time × ServiceCall :=
  (9, .worker "second" ⟨"other", by decide⟩ (.transition .loading ""))

/-- A run of `s` is loading in `s'` next to an unresolved run of its pipeline. -/
def LoadsBesideUnresolved (s s' : Time × Database) : Prop :=
  ∃ a ∈ s'.2.runs, ∃ b₀ ∈ s.2.runs, ∃ b ∈ s'.2.runs,
    b.id = b₀.id ∧ b₀.status ≠ .loading ∧ b.status = .loading ∧ b.id ≠ a.id ∧
    b.pipelineDefinitionId = a.pipelineDefinitionId ∧ a.Terminal ∧
    a.requiresReconciliationReview = true ∧ a.reconciliationReviewed = false

instance (s s' : Time × Database) : Decidable (LoadsBesideUnresolved s s') :=
  inferInstanceAs (Decidable (∃ a ∈ s'.2.runs, ∃ b₀ ∈ s.2.runs, ∃ b ∈ s'.2.runs, _))

theorem loading_while_unresolved : ∃ (s s' : Time × Database) (i : Time × ServiceCall),
    (runSystem .trivial fun _ => "").Reachable s ∧ (runSystem .trivial fun _ => "").Step s i s' ∧
      LoadsBesideUnresolved s s' := by
  have replays : ((replay onePipeline
      (firstFails ++ secondExtracts)).bind
        fun s => serviceStep .trivial (fun _ => "") s secondLoads).isSome := by decide
  obtain ⟨s', h⟩ := Option.isSome_iff_exists.1 replays
  obtain ⟨s, hs, hs'⟩ := Option.bind_eq_some_iff.1 h
  have rows : ∀ s ∈ replay onePipeline (firstFails ++ secondExtracts),
      ∀ s' ∈ serviceStep .trivial (fun _ => "") s secondLoads, LoadsBesideUnresolved s s' := by decide
  exact ⟨s, s', secondLoads, (System.Reachable.init rfl).steps (steps_of_run hs), hs', rows s hs s' hs'⟩

theorem plain_calls : ∀ i ∈ firstFails ++ (secondExtracts ++ [secondLoads]),
    ∀ s, Admits PlainVerification s i := by
  intro i hi s run _ token call hc
  cases call with
  | completeRun a =>
    have none : ∀ i ∈ firstFails ++ (secondExtracts ++ [secondLoads]),
        ∀ t a, i.2 ≠ .worker run.id t (.completeRun a) := by
      simp [firstFails, secondExtracts, secondLoads]
    exact absurd hc (none i hi token a)
  | _ => trivial

/-- When the second run loads next to the unresolved first one, it was enqueued before that one
ended. -/
theorem admitted_before_unresolved_second : ∃ s s' : Time × Database,
    replay onePipeline firstFails = some s ∧
    replay s (secondExtracts ++ [secondLoads]) = some s' ∧
    ∃ b ∈ s'.2.runs, b.status = .loading ∧ ∃ b₀ ∈ s.2.runs, b₀.identity = b.identity := by
  have replays : ((replay onePipeline firstFails).bind fun s =>
      replay s (secondExtracts ++ [secondLoads])).isSome := by decide
  obtain ⟨s', h⟩ := Option.isSome_iff_exists.1 replays
  obtain ⟨s, hs, hs'⟩ := Option.bind_eq_some_iff.1 h
  have before : ∀ s ∈ replay onePipeline firstFails,
      ∃ a₀ ∈ s.2.runs, a₀.id = "first" ∧ a₀.Terminal := by decide
  have after : ∀ s ∈ replay onePipeline firstFails,
      ∀ s' ∈ replay s (secondExtracts ++ [secondLoads]),
      ∃ a ∈ s'.2.runs, a.id = "first" ∧ a.requiresReconciliationReview = true ∧
        a.reconciliationReviewed = false ∧
        ∃ b ∈ s'.2.runs, b.status = .loading ∧
          b.pipelineDefinitionId = a.pipelineDefinitionId := by decide
  obtain ⟨a₀, ha₀, hid₀, ended⟩ := before s hs
  obtain ⟨a, ha, hid, needs, unreviewed, b, hb, loading, pipeline⟩ := after s hs s' hs'
  have reachable : (plainSystem .trivial fun _ => "").Reachable s :=
    (System.Reachable.init rfl).steps
      (restrict_steps_of_run (fun i hi => plain_calls i (List.mem_append_left _ hi)) hs)
  have later : (plainSystem .trivial fun _ => "").Steps s s' :=
    restrict_steps_of_run (fun i hi => plain_calls i (List.mem_append_right _ hi)) hs'
  exact ⟨s, s', hs, hs', b, hb, loading, admitted_before_unresolved Redaction.trivial_keepsFacts
    reachable later ha₀ ended ha (hid.trans hid₀.symm) needs unreviewed hb pipeline⟩

end DataMover
