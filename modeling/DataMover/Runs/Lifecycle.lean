import DataMover.Runs.Service

/-!
# The run lifecycle

`Lifecycle` is the abstract run: the columns that say where a run is and who holds it.  `Move` lists
everything a service call can do to them; `Lifecycle.Consistent` is the invariant of the run table and
is preserved by every move.  The service calls refine the moves (`WorkerCall.effect_move`,
`claim_move`, `requestCancel_move`), so the invariant holds in every state that any sequence of calls
reaches (`Reachable.consistent`), and a call with a token other than the current, unexpired one
changes nothing.
-/

namespace DataMover

open PipelineRunStatus

/-! ## The abstract lifecycle -/

/-- Where a run is, and who holds it. -/
structure Lifecycle where
  status : PipelineRunStatus
  stage : Stage
  finishedAt : Option Time
  workerId : Option String
  leaseToken : Option Token
  leaseExpiresAt : Option Time

namespace Lifecycle

/-- A run that nobody holds. -/
def Unleased (l : Lifecycle) : Prop :=
  l.workerId = none ∧ l.leaseToken = none ∧ l.leaseExpiresAt = none

/-- A run that can still move: it is queued, or somebody holds it. -/
def Open (l : Lifecycle) : Prop := l.status = .queued ∨ l.leaseToken.isSome

/-- What one service call can do to a run. -/
inductive Move : Lifecycle → Lifecycle → Prop
  | stay (l : Lifecycle) : Move l l
  | renew (l : Lifecycle) (held : l.leaseToken.isSome) (expires : Time) :
      Move l { l with leaseExpiresAt := some expires }
  | advance (l : Lifecycle) (held : l.leaseToken.isSome) (s : PipelineRunStatus)
      (allowed : s ∈ l.status.allowedTransitions) (running : s ∉ terminalStatuses) :
      Move l { l with status := s, stage := stageForStatus s }
  | finish (l : Lifecycle) (isOpen : l.Open) (s : PipelineRunStatus) (ended : s ∈ terminalStatuses)
      (now : Time) : Move l ⟨s, stageForStatus s, some now, none, none, none⟩
  | release (l : Lifecycle) (held : l.leaseToken.isSome) (early : l.stage ∉ [Stage.transfer, .verify])
      (stage : Stage) (waiting : stage = .queued ∨ stage = .waitingForCompute) :
      Move l ⟨.queued, stage, l.finishedAt, none, none, none⟩
  | lease (l : Lifecycle) (isOpen : l.Open) (early : l.stage ∉ [Stage.transfer, .verify])
      (worker : String) (token : Token) (expires : Time) :
      Move l ⟨.validating, .authenticate, l.finishedAt, some worker, some token, some expires⟩

/-- The invariant of a run row. -/
structure Consistent (l : Lifecycle) : Prop where
  terminal_iff : l.status ∈ terminalStatuses ↔ l.finishedAt.isSome
  unleased_of_terminal : l.status ∈ terminalStatuses → l.Unleased
  leased_of_owned : l.status ∈ workerOwnedStatuses →
    l.leaseToken.isSome ∧ l.leaseExpiresAt.isSome
  unleased_of_queued : l.status = .queued → l.Unleased
  stage_eq : l.stage = stageForStatus l.status ∨ l.stage = .waitingForCompute ∧ l.status = .queued

namespace Consistent

variable {l : Lifecycle}

theorem owned_of_held (h : l.Consistent) (held : l.leaseToken.isSome) :
    l.status ∈ workerOwnedStatuses := by
  rcases queued_or_owned_or_terminal l.status with hs | hs | hs
  · rw [(h.unleased_of_queued hs).2.1] at held; simp at held
  · exact hs
  · rw [(h.unleased_of_terminal hs).2.1] at held; simp at held

theorem not_terminal_of_open (h : l.Consistent) (isOpen : l.Open) : l.status ∉ terminalStatuses := by
  rcases isOpen with hq | held
  · rw [hq]; decide
  · exact notMem_terminal_of_mem_owned (h.owned_of_held held)

theorem finishedAt_of_open (h : l.Consistent) (isOpen : l.Open) : l.finishedAt = none := by
  have := mt h.terminal_iff.2 (h.not_terminal_of_open isOpen)
  simpa using this

theorem unleased_of_no_token (h : l.Consistent) (free : l.leaseToken = none) : l.Unleased := by
  rcases queued_or_owned_or_terminal l.status with hs | hs | hs
  · exact h.unleased_of_queued hs
  · have := (h.leased_of_owned hs).1
    rw [free] at this
    cases this
  · exact h.unleased_of_terminal hs

end Consistent

/-- Every move keeps the invariant. -/
theorem Move.consistent {l l' : Lifecycle} (h : Move l l') (hl : l.Consistent) : l'.Consistent := by
  cases h with
  | stay => exact hl
  | renew held expires =>
    have owned := hl.owned_of_held held
    have running := notMem_terminal_of_mem_owned owned
    exact ⟨hl.terminal_iff, fun ht => absurd ht running,
      fun hw => ⟨(hl.leased_of_owned hw).1, rfl⟩,
      fun hq => by rw [(hl.unleased_of_queued hq).2.1] at held; simp at held, hl.stage_eq⟩
  | advance held s allowed running =>
    have owned := hl.owned_of_held held
    have finished := hl.finishedAt_of_open (.inr held)
    refine ⟨iff_of_false running (by simp [finished]), fun ht => absurd ht running,
      fun _ => hl.leased_of_owned owned, ?_, .inl rfl⟩
    rintro rfl
    exact absurd allowed (queued_notMem_allowedTransitions _)
  | finish isOpen s ended now =>
    refine ⟨iff_of_true ended rfl, fun _ => ⟨rfl, rfl, rfl⟩, ?_, fun _ => ⟨rfl, rfl, rfl⟩, .inl rfl⟩
    exact fun hw => absurd ended (notMem_terminal_of_mem_owned hw)
  | release held early stage waiting =>
    have finished := hl.finishedAt_of_open (.inr held)
    refine ⟨iff_of_false queued_notMem_terminal (by simp [finished]), fun _ => ⟨rfl, rfl, rfl⟩,
      fun hw => absurd hw queued_notMem_owned, fun _ => ⟨rfl, rfl, rfl⟩, ?_⟩
    rcases waiting with rfl | rfl
    · exact .inl rfl
    · exact .inr ⟨rfl, rfl⟩
  | lease isOpen early worker token expires =>
    have finished := hl.finishedAt_of_open isOpen
    exact ⟨iff_of_false validating_notMem_terminal (by simp [finished]),
      fun ht => absurd ht validating_notMem_terminal, fun _ => ⟨rfl, rfl⟩,
      fun hq => PipelineRunStatus.noConfusion hq, .inl rfl⟩

/-- A terminal run does not move. -/
theorem Move.eq_of_terminal {l l' : Lifecycle} (h : Move l l') (hl : l.Consistent)
    (ht : l.status ∈ terminalStatuses) : l' = l := by
  have closed : ¬ l.Open := fun isOpen => hl.not_terminal_of_open isOpen ht
  cases h with
  | stay => rfl
  | renew held | advance held | release held => exact absurd (.inr held) closed
  | finish isOpen | lease isOpen => exact absurd isOpen closed

end Lifecycle

/-- The lifecycle columns of a row. -/
def PipelineRun.lifecycle (run : PipelineRun) : Lifecycle :=
  ⟨run.status, run.stage, run.finishedAt, run.workerId, run.leaseToken, run.leaseExpiresAt⟩

namespace PipelineRun

variable (R : Redaction) (now : Time) (run : PipelineRun)

/-! ## What the row functions write -/

@[simp] theorem appendEvent_lifecycle (message : String) (stage : Option Stage) (level : Level) :
    (run.appendEvent R now message stage level).lifecycle = run.lifecycle := rfl

theorem lifecycle_setStatus_of_terminal {s : PipelineRunStatus} (h : s ∈ terminalStatuses)
    (token : Option Token) :
    (run.setStatus now s token).lifecycle = ⟨s, stageForStatus s, some now, none, none, none⟩ := by
  rw [setStatus_of_terminal now run s token h]; rfl

@[simp] theorem cancelBeforeDestinationWork_lifecycle (stage : Stage) (message : String) :
    (run.cancelBeforeDestinationWork R now stage message).lifecycle =
      ⟨.cancelled, .cancelled, some now, none, none, none⟩ := rfl

theorem recordFailure_lifecycle (a : FailArgs) (token : Option Token) :
    ∃ s ∈ terminalStatuses, (run.recordFailure R now a token).lifecycle =
      ⟨s, stageForStatus s, some now, none, none, none⟩ := by
  have ended : (if run.effectiveNeedsReconciliation a then failedNeedsReconciliation else failed) ∈
      terminalStatuses := by split_ifs <;> decide
  exact ⟨_, ended, lifecycle_setStatus_of_terminal now _ ended token⟩

theorem recordCancellation_lifecycle (impact : Option DataImpact) (token : Token) :
    ∃ s ∈ terminalStatuses, (run.recordCancellation R now impact token).lifecycle =
      ⟨s, stageForStatus s, some now, none, none, none⟩ := by
  have ended : ∀ needs : Bool, (if needs then failedNeedsReconciliation else cancelled) ∈
      terminalStatuses := by decide
  exact ⟨_, ended _, lifecycle_setStatus_of_terminal now _ (ended _) token⟩

theorem terminal_of_lifecycle {l : Lifecycle} (h : run.lifecycle = l)
    (ended : l.status ∈ terminalStatuses) : run.Terminal := by
  rw [Terminal, show run.status = l.status from congrArg Lifecycle.status h]
  exact ended

theorem cancelBeforeDestinationWork_terminal (stage : Stage) (message : String) :
    (run.cancelBeforeDestinationWork R now stage message).Terminal :=
  terminal_of_lifecycle _ (cancelBeforeDestinationWork_lifecycle R now run stage message)
    (by decide : cancelled ∈ terminalStatuses)

theorem recordFailure_terminal (a : FailArgs) (token : Option Token) :
    (run.recordFailure R now a token).Terminal := by
  obtain ⟨s, ended, h⟩ := recordFailure_lifecycle R now run a token
  exact terminal_of_lifecycle _ h ended

theorem recordCancellation_terminal (impact : Option DataImpact) (token : Token) :
    (run.recordCancellation R now impact token).Terminal := by
  obtain ⟨s, ended, h⟩ := recordCancellation_lifecycle R now run impact token
  exact terminal_of_lifecycle _ h ended

end PipelineRun

/-! ## The calls of a worker -/

/-- The calls that present a lease token. -/
inductive WorkerCall where
  | requestComputeStart (attempts : String → Option PipelineRun.ComputeAttempt)
      (userId connectionGeneration : String) (reserved : PipelineRun.ComputeAttempt)
  | deferRunForDatabricksCompute (attempts : String → Option PipelineRun.ComputeAttempt)
      (startupPollSeconds : Int)
  | blockComputeReadiness (summary : String)
  | heartbeat (leaseSeconds : Int)
  | renewLease (leaseSeconds : Int)
  | transition (status : PipelineRunStatus) (message : String)
  | addCounters (counters : PipelineRun.Counters)
  | recordGuardrailReview (guardrail : Document)
  | blockRun (summary : String) (guardrail : Document)
  | completeRun (a : PipelineRun.CompleteArgs)
  | failRun (a : PipelineRun.FailArgs)
  | cancelClaimedRun (dataImpact : Option DataImpact)

namespace WorkerCall

open PipelineRun
open Lifecycle (Move)

/-- The row that a call leaves behind, when it does not raise. -/
def effect (R : Redaction) (now : Time) (token : Token) (run : PipelineRun) :
    WorkerCall → Except Exn PipelineRun
  | requestComputeStart attempts userId connectionGeneration reserved =>
    run.requestComputeStart now attempts userId connectionGeneration reserved token
  | deferRunForDatabricksCompute attempts poll =>
    Prod.snd <$> run.deferRunForDatabricksCompute R now attempts poll token
  | blockComputeReadiness summary => run.blockComputeReadiness R now summary token
  | heartbeat leaseSeconds => run.heartbeat now leaseSeconds token
  | renewLease leaseSeconds => .ok (run.renewLease now leaseSeconds token).2
  | transition next message => run.transition R now next message token
  | addCounters counters => run.addCounters now counters token
  | recordGuardrailReview guardrail => run.recordGuardrailReview R now guardrail token
  | blockRun summary guardrail => run.blockRun R now summary guardrail token
  | completeRun a => run.completeRun R now a token
  | failRun a => run.failRun R now a (some token)
  | cancelClaimedRun dataImpact => run.cancelClaimedRun R now dataImpact token

variable {R : Redaction} {now : Time} {token : Token} {run run' : PipelineRun}

theorem heldToken (held : run.LeaseHeld now token) : run.lifecycle.leaseToken.isSome := by
  rw [show run.lifecycle.leaseToken = some token from held.1]; rfl

/-- A move that ends a held run. -/
theorem move_finish (held : run.LeaseHeld now token) {s : PipelineRunStatus}
    (ended : s ∈ terminalStatuses)
    (h : run'.lifecycle = ⟨s, stageForStatus s, some now, none, none, none⟩) :
    Move run.lifecycle run'.lifecycle := by
  rw [h]; exact .finish _ (.inr (heldToken held)) s ended now

theorem deferRunForDatabricksCompute_move {attempts : String → Option ComputeAttempt} {poll : Int}
    {released : Bool}
    (h : run.deferRunForDatabricksCompute R now attempts poll token = .ok (released, run')) :
    run.LeaseHeld now token ∧ Move run.lifecycle run'.lifecycle := by
  unfold PipelineRun.deferRunForDatabricksCompute at h
  obtain ⟨held, h⟩ := guarded_ok_iff.1 h
  refine ⟨held, ?_⟩
  split_ifs at h with hc
  · cases h
    exact move_finish held (by decide : cancelled ∈ terminalStatuses) rfl
  · rcases hd : run.deferralDeadline now attempts with _ | deadline
    · rw [hd] at h
      cases h
      exact .stay _
    · rw [hd] at h
      cases h
      refine .release _ (heldToken held) ?_ .waitingForCompute (.inr rfl)
      -- a run waits for compute only from the authentication stage
      unfold deferralDeadline at hd
      split at hd
      · simp at hd
      · split_ifs at hd with hs
        have : run.stage = .authenticate := not_not.1 fun hn => hs (.inl hn)
        rw [show run.lifecycle.stage = .authenticate from this]
        decide

/-- A request for a compute start only links the run to the attempt it waits for. -/
theorem requestComputeStart_ok {attempts : String → Option ComputeAttempt}
    {userId connectionGeneration : String} {reserved : ComputeAttempt}
    (h : run.requestComputeStart now attempts userId connectionGeneration reserved token =
      .ok run') :
    run.LeaseHeld now token ∧ ∃ deadline attemptId,
      run' = { run with
        databricksComputeStartDeadlineAt := deadline, databricksComputeAttemptId := attemptId } := by
  unfold PipelineRun.requestComputeStart at h
  obtain ⟨held, h⟩ := guarded_ok_iff.1 h
  refine ⟨held, ?_⟩
  by_cases other : run.userId ≠ userId
  · rw [if_pos other] at h
    cases h
  rw [if_neg other] at h
  by_cases late : run.stage ≠ .authenticate
  · rw [if_pos late] at h
    cases h
  rw [if_neg late] at h
  split at h
  · obtain ⟨-, -, rfl⟩ := map_eq_ok.1 h
    exact ⟨_, _, rfl⟩
  · cases h
    exact ⟨_, _, rfl⟩

theorem transition_move {status : PipelineRunStatus} {message : String}
    (h : run.transition R now status message token = .ok run') :
    run.LeaseHeld now token ∧ Move run.lifecycle run'.lifecycle := by
  unfold PipelineRun.transition at h
  obtain ⟨held, h⟩ := guarded_ok_iff.1 h
  obtain ⟨next, hn, h⟩ := bind_eq_ok.1 h
  obtain ⟨allowed, rfl⟩ := (applyTransition_ok_iff ..).1 hn
  have same : run'.lifecycle = (run.setStatus now status token).lifecycle := by
    cases h
    split_ifs <;> rfl
  refine ⟨held, ?_⟩
  rw [same]
  by_cases ended : status ∈ terminalStatuses
  · exact move_finish held ended (lifecycle_setStatus_of_terminal now run ended _)
  · rw [setStatus_of_not_terminal now run status _ ended]
    have := Move.advance run.lifecycle (heldToken held) status allowed ended
    simpa [lifecycle, held.1] using this

theorem blockRun_move {summary : String} {guardrail : Document}
    (h : run.blockRun R now summary guardrail token = .ok run') :
    run.LeaseHeld now token ∧ Move run.lifecycle run'.lifecycle := by
  unfold PipelineRun.blockRun at h
  obtain ⟨held, h⟩ := guarded_ok_iff.1 h
  obtain ⟨next, hn, h⟩ := bind_eq_ok.1 h
  obtain ⟨-, rfl⟩ := (applyTransition_ok_iff ..).1 hn
  cases h
  exact ⟨held, move_finish held (by decide : blocked ∈ terminalStatuses) rfl⟩

/-- Every worker call is made by the holder of the lease and makes one move, or does nothing. -/
theorem effect_move {call : WorkerCall} (h : call.effect R now token run = .ok run') :
    (run.LeaseHeld now token ∨ run' = run) ∧ Move run.lifecycle run'.lifecycle := by
  have leased {p : Prop} (hp : run.LeaseHeld now token ∧ p) :
      (run.LeaseHeld now token ∨ run' = run) ∧ p := ⟨.inl hp.1, hp.2⟩
  cases call with
  | requestComputeStart attempts userId connectionGeneration reserved =>
    obtain ⟨held, deadline, attemptId, rfl⟩ := requestComputeStart_ok h
    exact leased ⟨held, .stay _⟩
  | deferRunForDatabricksCompute attempts poll =>
    simp only [effect] at h
    rcases hd : run.deferRunForDatabricksCompute R now attempts poll token with e | ⟨released, r⟩
    · rw [hd] at h; cases h
    · rw [hd] at h; cases h
      exact leased (deferRunForDatabricksCompute_move hd)
  | blockComputeReadiness summary =>
    obtain ⟨held, h⟩ := guarded_ok_iff.1 h
    cases h
    exact leased ⟨held, move_finish held (by decide : blocked ∈ terminalStatuses) rfl⟩
  | heartbeat leaseSeconds =>
    obtain ⟨held, h⟩ := guarded_ok_iff.1 h
    cases h
    exact leased ⟨held, .renew _ (heldToken held) _⟩
  | renewLease leaseSeconds =>
    simp only [effect, PipelineRun.renewLease, Except.ok.injEq] at h
    split_ifs at h with hr
    · obtain ⟨ht, -, expires, he, hlt⟩ := hr
      have held : run.LeaseHeld now token := by
        refine ⟨ht, fun e he' => ?_⟩
        rw [Option.mem_def.1 he, Option.some.injEq] at he'
        exact he' ▸ hlt
      subst h
      exact leased ⟨held, .renew _ (heldToken held) _⟩
    · subst h
      exact ⟨.inr rfl, .stay _⟩
  | transition status message => exact leased (transition_move h)
  | addCounters counters =>
    obtain ⟨held, h⟩ := guarded_ok_iff.1 h
    cases h
    exact leased ⟨held, .stay _⟩
  | recordGuardrailReview guardrail =>
    obtain ⟨held, h⟩ := guarded_ok_iff.1 h
    cases h
    exact leased ⟨held, .stay _⟩
  | blockRun summary guardrail => exact leased (blockRun_move h)
  | completeRun a =>
    obtain ⟨held, h⟩ := guarded_ok_iff.1 h
    cases h
    exact leased ⟨held, move_finish held (by decide : succeeded ∈ terminalStatuses) rfl⟩
  | failRun a =>
    obtain ⟨held, h⟩ := guarded_ok_iff.1 h
    cases h
    obtain ⟨s, ended, hs⟩ := recordFailure_lifecycle R now run a (some token)
    exact leased ⟨held, move_finish held ended hs⟩
  | cancelClaimedRun dataImpact =>
    obtain ⟨held, h⟩ := guarded_ok_iff.1 h
    cases h
    obtain ⟨s, ended, hs⟩ := recordCancellation_lifecycle R now run dataImpact token
    exact leased ⟨held, move_finish held ended hs⟩

/-- The call raises a conflict; `renew_lease` reports instead that it did nothing. -/
def Refused (R : Redaction) (now : Time) (token : Token) (run : PipelineRun) (call : WorkerCall) :
    Prop :=
  (∃ leaseSeconds, call = .renewLease leaseSeconds ∧
      run.renewLease now leaseSeconds token = (false, run)) ∨
    ∃ message, call.effect R now token run = .error (.runConflict message)

/-- Without the current, unexpired token every call is refused. -/
theorem refused_of_not_leaseHeld (call : WorkerCall) (hn : ¬ run.LeaseHeld now token) :
    call.Refused R now token run := by
  cases call with
  | renewLease leaseSeconds =>
    refine .inl ⟨leaseSeconds, rfl, ?_⟩
    rw [PipelineRun.renewLease, if_neg]
    rintro ⟨ht, -, expires, he, hlt⟩
    refine hn ⟨ht, fun e he' => ?_⟩
    rw [Option.mem_def.1 he, Option.some.injEq] at he'
    exact he' ▸ hlt
  | deferRunForDatabricksCompute attempts poll =>
    obtain ⟨message, h⟩ := guarded_error hn (α := Bool × PipelineRun) _
    refine .inr ⟨message, ?_⟩
    simp only [effect, PipelineRun.deferRunForDatabricksCompute]
    rw [h]
    rfl
  | requestComputeStart | blockComputeReadiness | heartbeat | transition | addCounters
  | recordGuardrailReview | blockRun | completeRun | failRun | cancelClaimedRun =>
    exact .inr (guarded_error hn _)

end WorkerCall

/-! ## The calls that need no token -/

namespace PipelineRun

open Lifecycle (Move)

variable {R : Redaction} {now : Time} {run run' : PipelineRun}

theorem requestCancel_move : Move run.lifecycle (run.requestCancel R now).lifecycle := by
  simp only [requestCancel]
  by_cases ht : run.Terminal
  · rw [if_pos ht]
    exact .stay _
  · rw [if_neg ht]
    by_cases hq : run.status = .queued
    · rw [if_pos hq]
      exact .finish _ (.inl hq) cancelled (by decide) now
    · rw [if_neg hq]
      exact .stay _

theorem recordReconciliationReview_lifecycle {iso : Time → String}
    (h : run.recordReconciliationReview R iso now = .ok run') : run'.lifecycle = run.lifecycle := by
  unfold recordReconciliationReview at h
  split_ifs at h
  cases h
  rfl

/-- The end of `claim_run` cancels the run or leases it. -/
theorem lease_lifecycle {stage : Stage} {workerId : String} {leaseSeconds : Int} {newToken : Token}
    {leased : Option Token}
    (h : run.lease R now stage workerId leaseSeconds newToken = .ok (run', leased)) :
    run'.lifecycle = ⟨.cancelled, .cancelled, some now, none, none, none⟩ ∨
      run'.lifecycle = ⟨.validating, .authenticate, run.finishedAt, some workerId, some newToken,
        some (now + seconds leaseSeconds)⟩ := by
  unfold lease at h
  split_ifs at h with hc
  · cases h
    exact .inl rfl
  · obtain ⟨next, hn, h⟩ := bind_eq_ok.1 h
    obtain ⟨-, rfl⟩ := (applyTransition_ok_iff ..).1 hn
    cases h
    exact .inr rfl

theorem lease_move {stage : Stage} {workerId : String} {leaseSeconds : Int} {newToken : Token}
    {leased : Option Token} {l : Lifecycle} (isOpen : l.Open)
    (early : l.stage ∉ [Stage.transfer, .verify]) (finished : run.finishedAt = l.finishedAt)
    (h : run.lease R now stage workerId leaseSeconds newToken = .ok (run', leased)) :
    Move l run'.lifecycle := by
  rcases lease_lifecycle h with hl | hl
  · rw [hl]
    exact .finish l isOpen cancelled (by decide) now
  · rw [hl, finished]
    exact .lease l isOpen early workerId newToken _

theorem queued_of_claimable (hc : run.claimable now = true)
    (hw : ¬ (run.WorkerOwned ∧ run.leaseExpiresAt.isSome)) : run.status = .queued := by
  simp only [claimable, Bool.or_eq_true, Bool.and_eq_true, decide_eq_true_eq] at hc
  rcases hc with ⟨hq, -⟩ | ⟨owned, expired⟩
  · exact hq
  · exact absurd ⟨owned, Option.isSome_of_any expired⟩ hw

theorem claim_move {workerId : String} {leaseSeconds : Int} {newToken : Token}
    {leased : Option Token} (hc : run.claimable now = true) (consistent : run.lifecycle.Consistent)
    (h : run.claim R now workerId leaseSeconds newToken = .ok (run', leased)) :
    Move run.lifecycle run'.lifecycle := by
  unfold claim at h
  by_cases hw : run.WorkerOwned ∧ run.leaseExpiresAt.isSome
  · have isOpen : run.lifecycle.Open := .inr (consistent.leased_of_owned hw.1).1
    rw [if_pos hw] at h
    by_cases hs : run.stage ∈ [Stage.transfer, .verify]
    · rw [if_pos hs] at h
      cases h
      obtain ⟨s, ended, hl⟩ := recordFailure_lifecycle R now run workerLost none
      rw [hl]
      exact .finish _ isOpen s ended now
    · rw [if_neg hs] at h
      have finished : (run.requeue R now).finishedAt = run.lifecycle.finishedAt := rfl
      exact lease_move isOpen hs finished h
  · have hq := queued_of_claimable hc hw
    rw [if_neg hw] at h
    refine lease_move (.inl hq) ?_ rfl h
    rcases consistent.stage_eq with hs | ⟨hs, -⟩
    · rw [hs, show run.lifecycle.status = .queued from hq]; decide
    · rw [hs]; decide

end PipelineRun

end DataMover
