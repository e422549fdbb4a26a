import DataMover.Runs.Reconciliation

/-!
# Rows with destination work

A row leaves the early statuses for good when its worker moves it to `loading`.  From then on only the
holder of its lease changes what the row says about the transfer, until it ends; a claim after the end
of the lease ends it as uncertain.
-/

namespace DataMover

open PipelineRunStatus

/-- The statuses before any destination work. -/
def PipelineRunStatus.earlyStatuses : List PipelineRunStatus := [queued, validating, extracting]

namespace PipelineRun

/-- The run has not begun destination work. -/
abbrev Early (run : PipelineRun) : Prop := run.status ∈ earlyStatuses

/-- The run ended, and nobody knows what the destination holds. -/
structure UncertainEnd (run : PipelineRun) : Prop where
  status : run.status = .failedNeedsReconciliation
  impact : run.dataImpact = some .uncertain
  required : run.reconciliationRequired = true

/-- The columns that tell how the transfer of a run stands. -/
def standing (run : PipelineRun) :
    PipelineRunStatus × Option Token × Option DataImpact × Bool × Nat × Nat :=
  (run.status, run.leaseToken, run.dataImpact, run.reconciliationRequired, run.sourceRows,
    run.loadedRows)

end PipelineRun

/-! ## Leaving the early statuses -/

section Late

variable {R : Redaction} {iso : Time → String} {now : Time} {run run' : PipelineRun}

theorem notMem_early_of_mem_terminal {s : PipelineRunStatus} (h : s ∈ terminalStatuses) :
    s ∉ earlyStatuses := by
  revert h
  cases s <;> decide

theorem notMem_early_of_allowed {s s' : PipelineRunStatus} (late : s ∉ earlyStatuses)
    (h : s' ∈ s.allowedTransitions) : s' ∉ earlyStatuses := by
  revert late h
  cases s <;> cases s' <;> decide

/-- A late run that is still open is in one of the stages of destination work. -/
theorem Lifecycle.Consistent.stage_of_late {l : Lifecycle} (h : l.Consistent)
    (late : l.status ∉ earlyStatuses) (isOpen : l.Open) : l.stage ∈ [Stage.transfer, .verify] := by
  have running := h.not_terminal_of_open isOpen
  rcases h.stage_eq with hs | ⟨-, hq⟩
  · rw [hs]
    revert late running
    cases l.status <;> decide
  · rw [hq] at late
    exact absurd (by decide : queued ∈ earlyStatuses) late

theorem Lifecycle.Move.late {l l' : Lifecycle} (h : Lifecycle.Move l l') (hl : l.Consistent)
    (late : l.status ∉ earlyStatuses) : l'.status ∉ earlyStatuses := by
  cases h with
  | stay => exact late
  | renew held expires => exact late
  | advance held s allowed running => exact notMem_early_of_allowed late allowed
  | finish isOpen s ended now => exact notMem_early_of_mem_terminal ended
  | release held early => exact absurd (hl.stage_of_late late (.inr held)) early
  | lease isOpen early => exact absurd (hl.stage_of_late late isOpen) early

theorem RowStep.late {call : ServiceCall} (h : RowStep R iso now run call run')
    (consistent : run.lifecycle.Consistent) (late : ¬ run.Early) : ¬ run'.Early :=
  (h.move consistent).late consistent late

/-- The holder of the lease of a late run works in one of the stages of destination work. -/
theorem stage_of_held {token : Token} (consistent : run.lifecycle.Consistent) (late : ¬ run.Early)
    (held : run.LeaseHeld now token) : run.stage ∈ [Stage.transfer, .verify] :=
  consistent.stage_of_late late (.inr (WorkerCall.heldToken held))

end Late

/-! ## The calls of others -/

/-- The calls that the lease keeper and the connectors of a worker make beside its program. -/
def WorkerCall.beside : WorkerCall → Bool
  | renewLease _ | requestComputeStart .. => true
  | _ => false

/-- A call that the program of the worker with this token did not make. -/
def ServiceCall.Foreign (token : Token) : ServiceCall → Prop
  | worker _ t call => t ≠ token ∨ call.beside = true
  | _ => True

section Foreign

open PipelineRun

variable {R : Redaction} {iso : Time → String} {now : Time} {run run' : PipelineRun} {token : Token}

theorem requestCancel_standing (late : ¬ run.Early) :
    (run.requestCancel R now).standing = run.standing := by
  simp only [requestCancel]
  by_cases ended : run.Terminal
  · rw [if_pos ended]
  · rw [if_neg ended]
    have waiting : run.status ≠ .queued := by
      intro hq
      rw [Early, hq] at late
      exact late (by decide)
    rw [if_neg waiting]
    rfl

theorem recordReconciliationReview_standing
    (h : run.recordReconciliationReview R iso now = .ok run') : run'.standing = run.standing := by
  unfold recordReconciliationReview at h
  split_ifs at h
  cases h
  rfl

theorem beside_standing {t : Token} {call : WorkerCall} (beside : call.beside = true)
    (h : call.effect R now t run = .ok run') : run'.standing = run.standing := by
  cases call with
  | renewLease leaseSeconds =>
    simp only [WorkerCall.effect, PipelineRun.renewLease, Except.ok.injEq] at h
    split_ifs at h <;> subst h <;> rfl
  | requestComputeStart attempts userId connectionGeneration reserved =>
    obtain ⟨-, deadline, attemptId, rfl⟩ := WorkerCall.requestComputeStart_ok h
    rfl
  | deferRunForDatabricksCompute | blockComputeReadiness | heartbeat | transition | addCounters
  | recordGuardrailReview | blockRun | completeRun | failRun | cancelClaimedRun => cases beside

/-- A claim of a late run ends it as uncertain, with the code of a lost worker. -/
theorem claim_of_late {workerId : String} {leaseSeconds : Int} {newToken : Token}
    {leased : Option Token} (hc : run.claimable now = true) (consistent : run.lifecycle.Consistent)
    (late : ¬ run.Early) (h : run.claim R now workerId leaseSeconds newToken = .ok (run', leased)) :
    leased = none ∧ run'.UncertainEnd ∧ run'.errorCode = some (.known .workerLost) ∧
      run'.sourceRows = run.sourceRows ∧ run'.loadedRows = run.loadedRows := by
  have owned : run.WorkerOwned ∧ run.leaseExpiresAt.isSome := by
    refine not_not.1 fun hw => late ?_
    rw [Early, queued_of_claimable hc hw]
    decide
  have stage : run.stage ∈ [Stage.transfer, .verify] :=
    consistent.stage_of_late late (.inr (consistent.leased_of_owned owned.1).1)
  unfold claim at h
  rw [if_pos owned, if_pos stage] at h
  cases h
  exact ⟨rfl, ⟨rfl, rfl, rfl⟩, rfl, rfl, rfl⟩

/-- What others can do to a late run whose lease a worker holds, or that has ended: nothing, or end
it as uncertain. -/
theorem RowStep.foreign {call : ServiceCall} (h : RowStep R iso now run call run')
    (consistent : run.lifecycle.Consistent) (late : ¬ run.Early)
    (owned : ¬ run.Terminal → run.leaseToken = some token) (foreign : call.Foreign token) :
    run'.standing = run.standing ∨
      run'.UncertainEnd ∧ run'.sourceRows = run.sourceRows ∧ run'.loadedRows = run.loadedRows := by
  cases h with
  | requestCancel userId => exact .inl (requestCancel_standing late)
  | review userId h => exact .inl (recordReconciliationReview_standing h)
  | claim active runId hc h =>
    obtain ⟨-, ended, -, rows⟩ := claim_of_late hc consistent late h
    exact .inr ⟨ended, rows⟩
  | event message stage level => exact .inl rfl
  | @worker t call run' h =>
    rcases foreign with other | beside
    · refine .inl (congrArg _ ((WorkerCall.effect_move h).1.resolve_left fun held => ?_))
      by_cases ended : run.Terminal
      · obtain ⟨-, unheld, -⟩ := consistent.unleased_of_terminal ended
        have taken := held.1
        rw [show run.leaseToken = none from unheld] at taken
        cases taken
      · exact other (Option.some.inj (held.1.symm.trans (owned ended)))
    · exact .inl (beside_standing beside h)

end Foreign

/-! ## Counters and successes -/

section Counters

open PipelineRun

variable {R : Redaction} {iso : Time → String} {now : Time} {run run' : PipelineRun} {token : Token}

/-- The counters of a row. -/
def PipelineRun.rows (run : PipelineRun) : Nat × Nat := (run.sourceRows, run.loadedRows)

/-- The counters are part of the frame. -/
theorem rows_of_frame (h : run'.frame = run.frame) : run'.rows = run.rows :=
  congrArg (fun f => f.2.1) h

theorem effect_rows {call : WorkerCall} (other : ∀ c, call ≠ .addCounters c)
    (h : call.effect R now token run = .ok run') : run'.rows = run.rows := by
  by_cases framing : call.framing = false
  · exact rows_of_frame (effect_frame framing h)
  · cases call with
    | addCounters c => exact absurd rfl (other c)
    | requestComputeStart attempts userId connectionGeneration reserved =>
      obtain ⟨-, deadline, attemptId, rfl⟩ := WorkerCall.requestComputeStart_ok h
      rfl
    | deferRunForDatabricksCompute attempts poll =>
      obtain ⟨⟨released, row⟩, hd, rfl⟩ := map_eq_ok.1 h
      obtain ⟨deadline, same⟩ := deferRunForDatabricksCompute_frame hd
      exact congrArg (fun f => f.2.1) same
    | _ => exact absurd rfl framing

/-- Only `add_counters` counts. -/
theorem RowStep.rows {call : ServiceCall} (h : RowStep R iso now run call run')
    (other : ∀ t c, call ≠ .worker run.id t (.addCounters c)) : run'.rows = run.rows := by
  cases h with
  | @worker t call run' h => exact effect_rows (fun c hc => other t c (hc ▸ rfl)) h
  | requestCancel => exact rows_of_frame requestCancel_frame
  | review userId h => exact rows_of_frame (recordReconciliationReview_frame h)
  | claim active runId hc h => exact rows_of_frame (claim_frame h)
  | event => rfl

theorem recordFailure_ne_succeeded (a : FailArgs) (t : Option Token) :
    (run.recordFailure R now a t).status ≠ .succeeded := by
  have status : (run.recordFailure R now a t).status =
      if run.effectiveNeedsReconciliation a then .failedNeedsReconciliation else .failed :=
    setStatus_status ..
  rw [status]
  split_ifs <;> decide

theorem recordCancellation_ne_succeeded (impact : Option DataImpact) (t : Token) :
    (run.recordCancellation R now impact t).status ≠ .succeeded := by
  have status : ∃ needs : Bool, (run.recordCancellation R now impact t).status =
      if needs then .failedNeedsReconciliation else .cancelled := ⟨_, setStatus_status ..⟩
  obtain ⟨needs, status⟩ := status
  rw [status]
  split_ifs <;> decide

theorem effect_succeeded {call : WorkerCall} (h : call.effect R now token run = .ok run')
    (success : run'.status = .succeeded) :
    run.status = .succeeded ∨ (∃ a, call = .completeRun a) ∨
      ∃ message, call = .transition .succeeded message := by
  cases call with
  | completeRun a => exact .inr (.inl ⟨a, rfl⟩)
  | transition next message =>
    obtain ⟨-, h⟩ := guarded_ok_iff.1 h
    obtain ⟨r, hr, h⟩ := bind_eq_ok.1 h
    obtain ⟨-, rfl⟩ := (applyTransition_ok_iff ..).1 hr
    have status : run'.status = next := by
      cases h
      split_ifs <;> exact setStatus_status ..
    exact .inr (.inr ⟨message, by rw [← status, success]⟩)
  | requestComputeStart attempts userId connectionGeneration reserved =>
    obtain ⟨-, deadline, attemptId, rfl⟩ := WorkerCall.requestComputeStart_ok h
    exact .inl success
  | deferRunForDatabricksCompute attempts poll =>
    obtain ⟨⟨released, row⟩, hd, rfl⟩ := map_eq_ok.1 h
    unfold PipelineRun.deferRunForDatabricksCompute at hd
    obtain ⟨-, hd⟩ := guarded_ok_iff.1 hd
    split_ifs at hd
    · cases hd
      cases success
    · split at hd
      · cases hd
        exact .inl success
      · cases hd
        cases success
  | renewLease leaseSeconds =>
    have same := beside_standing rfl h
    exact .inl ((congrArg Prod.fst same).symm.trans success)
  | blockRun summary guardrail =>
    obtain ⟨-, h⟩ := guarded_ok_iff.1 h
    obtain ⟨r, hr, h⟩ := bind_eq_ok.1 h
    obtain ⟨-, rfl⟩ := (applyTransition_ok_iff ..).1 hr
    cases h
    cases success
  | failRun a =>
    obtain ⟨-, h⟩ := guarded_ok_iff.1 h
    cases h
    exact absurd success (recordFailure_ne_succeeded _ _)
  | cancelClaimedRun dataImpact =>
    obtain ⟨-, h⟩ := guarded_ok_iff.1 h
    cases h
    exact absurd success (recordCancellation_ne_succeeded _ _)
  | blockComputeReadiness summary =>
    obtain ⟨-, h⟩ := guarded_ok_iff.1 h
    cases h
    cases success
  | heartbeat | addCounters | recordGuardrailReview =>
    obtain ⟨-, h⟩ := guarded_ok_iff.1 h
    cases h
    exact .inl success

/-- Only `complete_run` and a transition to `succeeded` make a run succeed. -/
theorem RowStep.succeeded {call : ServiceCall} (h : RowStep R iso now run call run')
    (success : run'.status = .succeeded) :
    run.status = .succeeded ∨ ∃ t c, call = .worker run.id t c ∧
      ((∃ a, c = .completeRun a) ∨ ∃ message, c = .transition .succeeded message) := by
  cases h with
  | requestCancel userId =>
    simp only [PipelineRun.requestCancel] at success
    split_ifs at success
    · exact .inl success
    · cases success
    · exact .inl success
  | review userId h =>
    have same := recordReconciliationReview_standing h
    exact .inl ((congrArg Prod.fst same).symm.trans success)
  | claim active runId hc h =>
    have leased {run : PipelineRun} {stage : Stage} {workerId : String} {seconds : Int}
        {newToken : Token} {leased : Option Token}
        (h : run.lease R now stage workerId seconds newToken = .ok (run', leased)) : False := by
      rcases PipelineRun.lease_lifecycle h with hl | hl
      · cases (congrArg Lifecycle.status hl).symm.trans success
      · cases (congrArg Lifecycle.status hl).symm.trans success
    unfold PipelineRun.claim at h
    split_ifs at h
    · cases h
      exact absurd success (recordFailure_ne_succeeded _ _)
    · exact (leased h).elim
    · exact (leased h).elim
  | event => exact .inl success
  | @worker t call run' h =>
    exact (effect_succeeded h success).imp_right fun hc => ⟨t, call, rfl, hc⟩

end Counters

end DataMover
