import DataMover.Engine.Fleet

/-!
# A worker and its row

`Attached` relates a worker that has moved its run to `loading` to the row of the run.  It is kept by
what others do to the row (`Attached.foreign`) and by the calls of the worker itself
(`Attached.service`, `Attached.observe`), because these follow the protocol.
-/

namespace DataMover

open PipelineRunStatus

/-- The run succeeded. -/
structure PipelineRun.SuccessEnd (run : PipelineRun) : Prop where
  status : run.status = .succeeded
  impact : run.dataImpact = some .verified ∨ run.dataImpact = some .changed

/-- A row under a worker with this token and progress that has begun destination work. -/
structure Attached (row : PipelineRun) (token : Token) (p : Progress) (committed : Bool) : Prop where
  late : ¬ row.Early
  owned : ¬ row.Terminal → row.leaseToken = some token
  counted : ∀ n ∈ p.counted, row.sourceRows = n
  verifying : p.verifying = true → p.ending = false → p.finalized = .pending →
    row.status = .verifying ∨ row.UncertainEnd
  finalized : p.finalized ≠ .pending →
    row.status = .verifying ∨ row.UncertainEnd ∨ row.SuccessEnd ∨ row.Terminal ∧ committed = false

/-- The part of a worker's progress that `Attached` reads. -/
def Progress.outline (p : Progress) : Option Nat × Bool × Bool × Finalize :=
  (p.counted, p.verifying, p.ending, p.finalized)

namespace PipelineRun

variable {row row' : PipelineRun}

theorem UncertainEnd.of_standing (h : row.UncertainEnd) (same : row'.standing = row.standing) :
    row'.UncertainEnd := by
  simp only [standing, Prod.mk.injEq] at same
  exact ⟨same.1.trans h.status, same.2.2.1.trans h.impact, same.2.2.2.1.trans h.required⟩

theorem UncertainEnd.terminal (h : row.UncertainEnd) : row.Terminal := by
  rw [Terminal, h.status]
  decide

theorem SuccessEnd.of_standing (h : row.SuccessEnd) (same : row'.standing = row.standing) :
    row'.SuccessEnd := by
  simp only [standing, Prod.mk.injEq] at same
  exact ⟨same.1.trans h.status, same.2.2.1 ▸ h.impact⟩

end PipelineRun

namespace Attached

open PipelineRun

variable {R : Redaction} {iso : Time → String} {now : Time} {row row' : PipelineRun} {token : Token}
  {p q : Progress} {committed : Bool}

theorem of_standing (h : Attached row token p committed) (same : row'.standing = row.standing) :
    Attached row' token p committed := by
  have columns := same
  simp only [standing, Prod.mk.injEq] at columns
  obtain ⟨status, lease, -, -, rows, -⟩ := columns
  refine ⟨?_, ?_, ?_, ?_, ?_⟩
  · rw [Early, status]
    exact h.late
  · rw [Terminal, status, lease]
    exact h.owned
  · rw [rows]
    exact h.counted
  · intro hv he hf
    rw [status]
    exact (h.verifying hv he hf).imp_right fun u => u.of_standing same
  · intro hf
    rw [status, Terminal, status]
    exact (h.finalized hf).imp_right fun rest =>
      rest.imp (fun u => u.of_standing same) fun rest => rest.imp_left fun e => e.of_standing same

theorem of_outline (h : Attached row token p committed) (same : q.outline = p.outline) :
    Attached row token q committed := by
  simp only [Progress.outline, Prod.mk.injEq] at same
  obtain ⟨c, v, e, f⟩ := same
  exact ⟨h.late, h.owned, c ▸ h.counted, v ▸ e ▸ f ▸ h.verifying, f ▸ h.finalized⟩

/-- Once a worker is about to end the run, it need not be verifying any more. -/
theorem ending (h : Attached row token p committed) :
    Attached row token { p with ending := true } committed :=
  ⟨h.late, h.owned, h.counted, nofun, h.finalized⟩

/-- The run ends, in a way that does not hide a commit. -/
theorem ends (h : Attached row token p committed) (ended : row'.Terminal)
    (rows : row'.rows = row.rows)
    (known : p.finalized ≠ .pending → row'.UncertainEnd ∨ row'.SuccessEnd ∨ committed = false) :
    Attached row' token { p with ending := true } committed := by
  refine ⟨notMem_early_of_mem_terminal ended, fun running => absurd ended running, ?_, nofun, ?_⟩
  · intro n hn
    exact (congrArg Prod.fst rows).trans (h.counted n hn)
  · intro hf
    rcases known hf with u | e | c
    · exact .inr (.inl u)
    · exact .inr (.inr (.inl e))
    · exact .inr (.inr (.inr ⟨ended, c⟩))

/-- What others do keeps a worker attached. -/
theorem foreign {call : ServiceCall} (h : Attached row token p committed)
    (step : RowStep R iso now row call row') (consistent : row.lifecycle.Consistent)
    (foreign : call.Foreign token) : Attached row' token p committed := by
  rcases step.foreign consistent h.late h.owned foreign with same | ⟨ended, rows, -⟩
  · exact h.of_standing same
  · refine ⟨notMem_early_of_mem_terminal ended.terminal, fun running => absurd ended.terminal running,
      ?_, fun _ _ _ => .inr ended, fun _ => .inr (.inl ended)⟩
    intro n hn
    exact rows.trans (h.counted n hn)

end Attached

/-! ## The calls of the worker -/

section Failures

open PipelineRun

variable {R : Redaction} {now : Time} {row : PipelineRun}

theorem setStatus_impact (s : PipelineRunStatus) (t : Option Token) :
    (row.setStatus now s t).dataImpact = row.dataImpact ∧
      (row.setStatus now s t).reconciliationRequired = row.reconciliationRequired := by
  unfold setStatus
  split_ifs
  · exact ⟨rfl, rfl⟩
  · cases t <;> exact ⟨rfl, rfl⟩

/-- A failure that is recorded as uncertain leaves an uncertain run. -/
theorem recordFailure_uncertain {a : FailArgs} (h : UncertainFailure a) (t : Option Token) :
    (row.recordFailure R now a t).UncertainEnd := by
  obtain ⟨impact, reason⟩ := h
  have needs : row.effectiveNeedsReconciliation a = true := by
    unfold effectiveNeedsReconciliation
    rw [impact, if_neg (by simp)]
    rcases reason with needs | code
    · rw [needs, Bool.true_or]
    · rw [code]
      exact Bool.or_true _
  have uncertain : row.resolvedImpact a = .uncertain := by
    unfold resolvedImpact failureDataImpact
    rw [impact, needs]
    rfl
  have status : (row.recordFailure R now a t).status =
      if row.effectiveNeedsReconciliation a then .failedNeedsReconciliation else .failed :=
    setStatus_status ..
  have impact : (row.recordFailure R now a t).dataImpact = some (row.resolvedImpact a) :=
    (setStatus_impact ..).1
  have required : (row.recordFailure R now a t).reconciliationRequired =
      row.effectiveNeedsReconciliation a := (setStatus_impact ..).2
  exact ⟨by rw [status, needs]; rfl, by rw [impact, uncertain], by rw [required, needs]⟩

end Failures

namespace Attached

open PipelineRun

variable {R : Redaction} {now : Time} {row row' : PipelineRun} {token : Token} {p : Progress}
  {committed : Bool} {job : Option Job}

/-- A call that raised without an effect. -/
theorem refused {call : WorkerCall} (h : Attached row token p committed) (e : Exn) :
    Attached row token (p.observe (.service call) (.error e)) committed := by
  cases call with
  | addCounters c => exact ⟨h.late, h.owned, nofun, h.verifying, h.finalized⟩
  | transition status message => cases status <;> exact h
  | blockComputeReadiness | blockRun | completeRun | failRun | cancelClaimedRun => exact h.ending
  | requestComputeStart | deferRunForDatabricksCompute | heartbeat | renewLease
  | recordGuardrailReview => exact h

/-- The transition of an attached run leads to `verifying`. -/
theorem transition {status : PipelineRunStatus} {message : String}
    (h : Attached row token p committed) (loading : p.loading = true)
    (orderly : OrderlyService job p (.transition status message))
    (effect : row.transition R now status message token = .ok row') (r : Except Exn PipelineRun) :
    Attached row' token (p.observe (.service (.transition status message)) r) committed := by
  obtain ⟨pending, -, target⟩ := orderly
  unfold PipelineRun.transition at effect
  obtain ⟨held, effect⟩ := guarded_ok_iff.1 effect
  obtain ⟨next, hn, effect⟩ := bind_eq_ok.1 effect
  obtain ⟨allowed, rfl⟩ := (applyTransition_ok_iff ..).1 hn
  have late := notMem_early_of_allowed h.late allowed
  rcases target with rfl | ⟨-, off⟩ | ⟨rfl, -⟩
  · exact absurd (by decide : extracting ∈ earlyStatuses) late
  · exact absurd (loading.symm.trans off) (by simp)
  · rw [setStatus_of_not_terminal now row .verifying _ (by decide)] at effect
    have columns : row'.status = .verifying ∧ row'.leaseToken = some token ∧
        row'.sourceRows = row.sourceRows := by
      cases effect
      split_ifs <;> exact ⟨rfl, rfl, rfl⟩
    obtain ⟨status, lease, rows⟩ := columns
    have attached : Attached row' token p committed := by
      refine ⟨?_, fun _ => lease, fun n hn => rows.trans (h.counted n hn), fun _ _ _ => .inl status,
        fun hf => absurd pending hf⟩
      rw [PipelineRun.Early, status]
      decide
    cases r with
    | ok run => exact ⟨attached.late, attached.owned, attached.counted, fun _ _ _ => .inl status,
        attached.finalized⟩
    | error e => exact attached

/-- The calls of the worker keep it attached. -/
theorem service {call : WorkerCall} (h : Attached row token p committed)
    (loading : p.loading = true) (clean : p.rolledBack = some true → committed = false)
    (orderly : OrderlyService job p call) (effect : call.effect R now token row = .ok row')
    (r : Except Exn PipelineRun) :
    Attached row' token (p.observe (.service call) r) committed := by
  have cleared (c : p.Clean) (hf : p.finalized ≠ .pending) : committed = false := by
    rcases c with pending | ⟨-, rolledBack⟩
    · exact absurd pending hf
    · exact clean rolledBack
  cases call with
  | heartbeat leaseSeconds =>
    obtain ⟨-, effect⟩ := guarded_ok_iff.1 effect
    cases effect
    cases r <;> exact h.of_standing rfl
  | recordGuardrailReview guardrail =>
    obtain ⟨-, effect⟩ := guarded_ok_iff.1 effect
    cases effect
    cases r <;> exact h.of_standing rfl
  | transition status message => exact h.transition loading orderly effect r
  | addCounters c =>
    obtain ⟨-, pending⟩ := orderly
    obtain ⟨-, effect⟩ := guarded_ok_iff.1 effect
    cases effect
    have status (hv : p.verifying = true) (he : p.ending = false) :
        row.status = .verifying ∨ row.UncertainEnd := h.verifying hv he pending
    have uncertain (u : row.UncertainEnd) : PipelineRun.UncertainEnd { row with
        sourceRows := row.sourceRows + c.sourceRows.getD 0
        sourceRowsMeasured := row.sourceRowsMeasured || c.sourceRows.isSome
        sourceBytes := row.sourceBytes + c.sourceBytes
        loadedRows := row.loadedRows + c.loadedRows.getD 0
        loadedRowsMeasured := row.loadedRowsMeasured || c.loadedRows.isSome
        loadedBytes := row.loadedBytes + c.loadedBytes } := ⟨u.status, u.impact, u.required⟩
    cases r with
    | error e =>
      exact ⟨h.late, h.owned, nofun, fun hv he _ => (status hv he).imp_right uncertain,
        fun hf => absurd pending hf⟩
    | ok run =>
      refine ⟨h.late, h.owned, ?_, fun hv he _ => (status hv he).imp_right uncertain,
        fun hf => absurd pending hf⟩
      intro n hn
      obtain ⟨m, hm, rfl⟩ := Option.map_eq_some_iff.1 hn
      exact congrArg (· + c.sourceRows.getD 0) (h.counted m hm)
  | blockRun summary guardrail =>
    have rows := effect_rows (fun _ => WorkerCall.noConfusion) effect
    obtain ⟨-, effect⟩ := guarded_ok_iff.1 effect
    obtain ⟨next, hn, effect⟩ := bind_eq_ok.1 effect
    obtain ⟨-, rfl⟩ := (applyTransition_ok_iff ..).1 hn
    cases effect
    have pending : p.finalized = .pending := orderly
    have ended := h.ends (by decide : blocked ∈ terminalStatuses) rows fun hf => absurd pending hf
    cases r <;> exact ended.of_outline rfl
  | blockComputeReadiness summary =>
    have rows := effect_rows (fun _ => WorkerCall.noConfusion) effect
    obtain ⟨-, effect⟩ := guarded_ok_iff.1 effect
    cases effect
    have ended := h.ends (by decide : blocked ∈ terminalStatuses) rows fun hf => .inr (.inr (cleared orderly hf))
    cases r <;> exact ended
  | completeRun a =>
    have rows := effect_rows (fun _ => WorkerCall.noConfusion) effect
    obtain ⟨-, effect⟩ := guarded_ok_iff.1 effect
    cases effect
    have impact : ∀ exact : Bool,
        some (if exact then DataImpact.verified else .changed) = some .verified ∨
          some (if exact then DataImpact.verified else .changed) = some .changed := by decide
    have ended := h.ends (by decide : succeeded ∈ terminalStatuses) rows
      fun _ => .inr (.inl ⟨rfl, impact _⟩)
    cases r <;> exact ended
  | failRun a =>
    have rows := effect_rows (fun _ => WorkerCall.noConfusion) effect
    obtain ⟨-, effect⟩ := guarded_ok_iff.1 effect
    cases effect
    have ended := h.ends (recordFailure_terminal R now row a (some token)) rows fun hf =>
      orderly.1.elim (fun c => .inr (.inr (cleared c hf)))
        fun uncertain => .inl (recordFailure_uncertain uncertain _)
    cases r <;> exact ended
  | cancelClaimedRun dataImpact =>
    have rows := effect_rows (fun _ => WorkerCall.noConfusion) effect
    obtain ⟨-, effect⟩ := guarded_ok_iff.1 effect
    cases effect
    have pending : p.finalized = .pending := orderly
    have ended := h.ends (recordCancellation_terminal R now row dataImpact token) rows
      fun hf => absurd pending hf
    cases r <;> exact ended
  | requestComputeStart | deferRunForDatabricksCompute | renewLease => exact orderly.elim

/-- A late run is not released, but its cancellation may be recorded. -/
theorem deferred {attempts : String → Option ComputeAttempt} {poll : Int}
    (h : Attached row token p committed) (consistent : row.lifecycle.Consistent)
    (clean : p.finalized ≠ .pending → committed = false)
    (effect : (WorkerCall.deferRunForDatabricksCompute attempts poll).effect R now token row =
      .ok row') : Attached row' token { p with ending := true } committed := by
  have rows := effect_rows (fun _ => WorkerCall.noConfusion) effect
  obtain ⟨⟨released, next⟩, hd, rfl⟩ := map_eq_ok.1 effect
  unfold PipelineRun.deferRunForDatabricksCompute at hd
  obtain ⟨held, hd⟩ := guarded_ok_iff.1 hd
  split_ifs at hd
  · cases hd
    exact h.ends (cancelBeforeDestinationWork_terminal ..) rows fun hf => .inr (.inr (clean hf))
  · rcases deadline : row.deferralDeadline now attempts with _ | time
    · rw [deadline] at hd
      cases hd
      exact h.ending
    · -- only a run in the authentication stage waits for compute
      have stage := stage_of_held consistent h.late held
      unfold deferralDeadline at deadline
      split at deadline
      · cases deadline
      · have working : row.stage ≠ .authenticate := by
          intro hs
          rw [hs] at stage
          exact absurd stage (by decide)
        rw [if_pos (.inl working)] at deadline
        cases deadline

/-- `finalize` is called while the run is verifying. -/
theorem finalize {session : LoadSession} {committed' : Bool} (h : Attached row token p committed)
    (orderly : Orderly job p (.finalize session)) (r : Except Exn DestinationManifest) :
    Attached row token (p.observe (.finalize session) r) committed' := by
  obtain ⟨-, verifying, pending, running, -⟩ := orderly
  have status := h.verifying verifying running pending
  cases r with
  | ok manifest =>
    exact ⟨h.late, h.owned, h.counted, nofun, fun _ => status.imp_right .inl⟩
  | error e => exact ⟨h.late, h.owned, h.counted, nofun, fun _ => status.imp_right .inl⟩

/-- The transition to `loading` attaches the worker. -/
theorem start {message : String} (early : row.Early → row.rows = (0, 0)) (ordered : p.Ordered)
    (off : p.loading = false) (effect : row.transition R now .loading message token = .ok row') :
    Attached row' token { p with loading := true } committed := by
  unfold PipelineRun.transition at effect
  obtain ⟨held, effect⟩ := guarded_ok_iff.1 effect
  obtain ⟨next, hn, effect⟩ := bind_eq_ok.1 effect
  obtain ⟨allowed, rfl⟩ := (applyTransition_ok_iff ..).1 hn
  have extracting : row.Early := by
    unfold PipelineRun.Early
    revert allowed
    cases row.status <;> decide
  rw [setStatus_of_not_terminal now row .loading _ (by decide)] at effect
  have columns : row'.status = .loading ∧ row'.leaseToken = some token ∧
      row'.sourceRows = row.sourceRows := by
    cases effect
    split_ifs <;> exact ⟨rfl, rfl, rfl⟩
  obtain ⟨status, lease, rows⟩ := columns
  have pending : p.finalized = .pending := by
    refine not_not.1 fun hf => ?_
    have on := ordered.loading_of_verifying (ordered.verifying_of_finalized hf)
    exact Bool.noConfusion (off.symm.trans on)
  refine ⟨?_, fun _ => lease, ?_, ?_, fun hf => absurd pending hf⟩
  · rw [PipelineRun.Early, status]
    decide
  · intro n hn
    have none : some 0 = some n := (ordered.uncounted off).symm.trans hn
    rw [rows, ← Option.some.inj none]
    exact congrArg Prod.fst (early extracting)
  · intro hv
    exact Bool.noConfusion (off.symm.trans (ordered.loading_of_verifying hv))

end Attached

end DataMover
