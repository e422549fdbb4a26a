import DataMover.Engine.Fleet

/-!
# Waiting for compute

A run that waits for Databricks compute has a deadline, which is set by `request_compute_start` and
can only move forward in `defer_run_for_databricks_compute`.  A deferral leaves the run due before the
deadline, and none requeues it at or after the deadline; a claim that then reports once more that the
compute is not ready ends the run (`compute_wait_bounded`).
-/

namespace DataMover

open PipelineRun PipelineRunStatus Transition
open Program (Runs Served)

/-! ## Deferrals -/

/-- The run waits for compute. -/
def PipelineRun.WaitsForCompute (run : PipelineRun) : Prop :=
  run.status = .queued ∧ run.stage = .waitingForCompute

/-- The attempt that the run waits for. -/
def PipelineRun.linkedAttempt (run : PipelineRun) (attempts : String → Option ComputeAttempt) :
    Option ComputeAttempt :=
  (run.databricksComputeAttemptId.filter (· ≠ "")).bind attempts

/-- The second deadline is set when the first one is, and is not later. -/
def Tightens (deadline deadline' : Option Time) : Prop :=
  ∀ d, deadline = some d → ∃ d', deadline' = some d' ∧ d' ≤ d

theorem Tightens.refl (deadline : Option Time) : Tightens deadline deadline :=
  fun d h => ⟨d, h, Int.le_refl d⟩

theorem Tightens.trans {a b c : Option Time} (h : Tightens a b) (h' : Tightens b c) :
    Tightens a c := by
  intro d hd
  obtain ⟨d', hd', le⟩ := h d hd
  obtain ⟨d'', hd'', le'⟩ := h' d' hd'
  exact ⟨d'', hd'', Int.le_trans le' le⟩

section Deferrals

variable {R : Redaction} {iso : Time → String} {now : Time} {run run' : PipelineRun} {token : Token}
  {attempts : String → Option ComputeAttempt} {poll : Int} {released : Bool}

/-- The deadline of a deferral lies ahead, and is that of the run or of its attempt. -/
theorem deferralDeadline_eq_some {d : Time} (h : run.deferralDeadline now attempts = some d) :
    now < d ∧ Tightens run.databricksComputeStartDeadlineAt (some d) ∧
      ∀ attempt, run.linkedAttempt attempts = some attempt → d ≤ attempt.deadlineAt := by
  unfold deferralDeadline at h
  unfold linkedAttempt
  cases hd : run.databricksComputeStartDeadlineAt with
  | none =>
    rw [hd] at h
    cases h
  | some deadline =>
    rw [hd] at h
    dsimp only at h
    split_ifs at h with late
    have ahead : now < deadline := Int.not_le.1 (not_or.1 late).2
    cases hid : run.databricksComputeAttemptId.filter (· ≠ "") with
    | none =>
      rw [hid] at h
      cases h
      exact ⟨ahead, .refl _, fun attempt none => nomatch none⟩
    | some id =>
      rw [hid] at h
      simp only [Option.bind_some]
      cases ha : attempts id with
      | none =>
        simp only [ha] at h
        cases h
      | some attempt =>
        simp only [ha] at h
        split_ifs at h with ended passed
        cases h
        refine ⟨Int.not_le.1 passed, ?_, ?_⟩
        · intro d hd
          cases hd
          exact ⟨_, rfl, Int.min_le_left _ _⟩
        · intro other same
          cases same
          exact Int.min_le_right _ _

/-- What a deferral does: it cancels the run, leaves it alone, or requeues it. -/
theorem deferral_cases
    (h : run.deferRunForDatabricksCompute R now attempts poll token = .ok (released, run')) :
    (released = true ∧ run'.status = .cancelled ∧
      run'.databricksComputeStartDeadlineAt = run.databricksComputeStartDeadlineAt) ∨
    (released = false ∧ run' = run) ∨
    ∃ d, run.deferralDeadline now attempts = some d ∧ released = true ∧
      run'.databricksComputeStartDeadlineAt = some d ∧
      run'.databricksComputeAttemptId = run.databricksComputeAttemptId ∧
      run'.nextAttemptAt = some (min (now + seconds poll) d) := by
  unfold deferRunForDatabricksCompute at h
  obtain ⟨-, h⟩ := guarded_ok_iff.1 h
  split_ifs at h with cancelled
  · cases h
    exact .inl ⟨rfl, rfl, rfl⟩
  · cases hd : run.deferralDeadline now attempts with
    | none =>
      rw [hd] at h
      cases h
      exact .inr (.inl ⟨rfl, rfl⟩)
    | some d =>
      rw [hd] at h
      cases h
      exact .inr (.inr ⟨d, rfl, rfl, rfl, rfl, rfl⟩)

/-- A run that a deferral leaves waiting is due before its deadline and that of its attempt. -/
theorem due_of_deferral (waits : run'.WaitsForCompute)
    (h : run.deferRunForDatabricksCompute R now attempts poll token = .ok (true, run')) :
    ∃ next d, run'.nextAttemptAt = some next ∧ run'.databricksComputeStartDeadlineAt = some d ∧
      next ≤ d ∧ ∀ attempt, run'.linkedAttempt attempts = some attempt → next ≤ attempt.deadlineAt := by
  rcases deferral_cases h with ⟨-, cancelled, -⟩ | ⟨released, -⟩ | ⟨d, hd, -, deadline, id, next⟩
  · rw [waits.1] at cancelled
    cases cancelled
  · cases released
  · obtain ⟨-, -, attempt⟩ := deferralDeadline_eq_some hd
    refine ⟨_, d, next, deadline, Int.min_le_right _ _, fun a ha => ?_⟩
    unfold linkedAttempt at ha attempt
    rw [id] at ha
    exact Int.le_trans (Int.min_le_right _ _) (attempt a ha)

/-- At or after the deadline, a deferral cancels the run or leaves it alone. -/
theorem deferral_at_deadline {d : Time} (hd : run.databricksComputeStartDeadlineAt = some d)
    (passed : d ≤ now)
    (h : run.deferRunForDatabricksCompute R now attempts poll token = .ok (released, run')) :
    (released = true ∧ run'.status = .cancelled) ∨ (released = false ∧ run' = run) := by
  rcases deferral_cases h with ⟨true, cancelled, -⟩ | same | ⟨d', hd', -⟩
  · exact .inl ⟨true, cancelled⟩
  · exact .inr same
  · obtain ⟨ahead, tightens, -⟩ := deferralDeadline_eq_some hd'
    obtain ⟨_, same, le⟩ := tightens d hd
    cases same
    exact absurd (Int.lt_of_lt_of_le ahead le) (Int.not_lt.2 passed)

theorem deferral_tightens
    (h : run.deferRunForDatabricksCompute R now attempts poll token = .ok (released, run')) :
    Tightens run.databricksComputeStartDeadlineAt run'.databricksComputeStartDeadlineAt := by
  rcases deferral_cases h with ⟨-, -, same⟩ | ⟨-, rfl⟩ | ⟨d, hd, -, deadline, -⟩
  · rw [same]
    exact .refl _
  · exact .refl _
  · rw [deadline]
    exact (deferralDeadline_eq_some hd).2.1

/-! ## Rows -/

theorem requestComputeStart_tightens {userId connectionGeneration : String}
    {reserved : ComputeAttempt}
    (h : run.requestComputeStart now attempts userId connectionGeneration reserved token = .ok run') :
    Tightens run.databricksComputeStartDeadlineAt run'.databricksComputeStartDeadlineAt := by
  intro d hd
  unfold PipelineRun.requestComputeStart at h
  obtain ⟨-, h⟩ := guarded_ok_iff.1 h
  simp only [hd] at h
  split_ifs at h with foreign late
  obtain ⟨-, -, rfl⟩ := map_eq_ok.1 h
  exact ⟨d, hd, Int.le_refl d⟩

/-- No call moves the deadline of a run backwards. -/
theorem RowStep.tightens {call : ServiceCall} (h : RowStep R iso now run call run') :
    Tightens run.databricksComputeStartDeadlineAt run'.databricksComputeStartDeadlineAt := by
  have framed (same : run'.frame = run.frame) :
      Tightens run.databricksComputeStartDeadlineAt run'.databricksComputeStartDeadlineAt := by
    rw [show run'.databricksComputeStartDeadlineAt = run.databricksComputeStartDeadlineAt from
      congrArg (fun f => f.2.2) same]
    exact .refl _
  cases h with
  | requestCancel => exact framed requestCancel_frame
  | review userId h => exact framed (recordReconciliationReview_frame h)
  | claim active runId hc h => exact framed (claim_frame h)
  | event => exact .refl _
  | @worker token call run' h =>
    by_cases other : call.framing = false
    · exact framed (effect_frame other h)
    · cases call with
      | requestComputeStart attempts userId connectionGeneration reserved =>
        exact requestComputeStart_tightens h
      | deferRunForDatabricksCompute attempts poll =>
        obtain ⟨⟨released, row⟩, hd, rfl⟩ := map_eq_ok.1 h
        exact deferral_tightens hd
      | addCounters counters =>
        obtain ⟨-, h⟩ := guarded_ok_iff.1 h
        cases h
        exact .refl _
      | _ => exact absurd rfl other

/-- The status and the stage are kept, or the stage is that of the status. -/
def StageFollows (run run' : PipelineRun) : Prop :=
  (run'.status = run.status ∧ run'.stage = run.stage) ∨ run'.stage = stageForStatus run'.status

theorem StageFollows.waits (h : StageFollows run run') (waits : run'.WaitsForCompute) :
    run.WaitsForCompute := by
  rcases h with ⟨status, stage⟩ | stage
  · exact ⟨status ▸ waits.1, stage ▸ waits.2⟩
  · rw [waits.1, waits.2] at stage
    exact absurd stage (by decide)

theorem setStatus_follows (run : PipelineRun) (s : PipelineRunStatus) (t : Option Token) :
    (run.setStatus now s t).stage = stageForStatus (run.setStatus now s t).status := by
  rw [setStatus_stage, setStatus_status]

theorem applyTransition_stage {s : PipelineRunStatus} {t : Option Token}
    (h : run.applyTransition now s t = .ok run') : run'.stage = stageForStatus run'.status := by
  obtain ⟨-, rfl⟩ := (applyTransition_ok_iff ..).1 h
  exact setStatus_follows run s t

theorem effect_stage {call : WorkerCall}
    (other : ∀ attempts poll, call ≠ .deferRunForDatabricksCompute attempts poll)
    (h : call.effect R now token run = .ok run') : StageFollows run run' := by
  cases call with
  | deferRunForDatabricksCompute attempts poll => exact absurd rfl (other attempts poll)
  | requestComputeStart attempts userId connectionGeneration reserved =>
    obtain ⟨-, deadline, attemptId, rfl⟩ := WorkerCall.requestComputeStart_ok h
    exact .inl ⟨rfl, rfl⟩
  | renewLease leaseSeconds =>
    simp only [WorkerCall.effect, PipelineRun.renewLease, Except.ok.injEq] at h
    split_ifs at h
    · subst h
      exact .inl ⟨rfl, rfl⟩
    · subst h
      exact .inl ⟨rfl, rfl⟩
  | transition next message =>
    obtain ⟨-, h⟩ := guarded_ok_iff.1 h
    obtain ⟨r, hr, h⟩ := bind_eq_ok.1 h
    have stage := applyTransition_stage hr
    cases h
    right
    split_ifs <;> exact stage
  | blockRun summary guardrail =>
    obtain ⟨-, h⟩ := guarded_ok_iff.1 h
    obtain ⟨r, hr, h⟩ := bind_eq_ok.1 h
    have stage := applyTransition_stage hr
    cases h
    exact .inr stage
  | blockComputeReadiness | failRun | cancelClaimedRun | completeRun =>
    obtain ⟨-, h⟩ := guarded_ok_iff.1 h
    cases h
    exact .inr (setStatus_follows _ _ _)
  | heartbeat | addCounters | recordGuardrailReview =>
    obtain ⟨-, h⟩ := guarded_ok_iff.1 h
    cases h
    exact .inl ⟨rfl, rfl⟩

theorem lease_stage {stage : Stage} {workerId : String} {leaseSeconds : Int} {newToken : Token}
    {leased : Option Token}
    (h : run.lease R now stage workerId leaseSeconds newToken = .ok (run', leased)) :
    run'.stage = stageForStatus run'.status := by
  unfold PipelineRun.lease at h
  split_ifs at h
  · cases h
    rfl
  · obtain ⟨r, hr, h⟩ := bind_eq_ok.1 h
    have stage := applyTransition_stage hr
    cases h
    exact stage

theorem claim_stage {workerId : String} {leaseSeconds : Int} {newToken : Token}
    {leased : Option Token}
    (h : run.claim R now workerId leaseSeconds newToken = .ok (run', leased)) :
    run'.stage = stageForStatus run'.status := by
  unfold PipelineRun.claim at h
  split_ifs at h
  · cases h
    exact setStatus_follows _ _ _
  · exact lease_stage h
  · exact lease_stage h

/-- At or after the deadline, no call makes a run wait that does not wait. -/
theorem RowStep.waits {call : ServiceCall} (h : RowStep R iso now run call run') {d : Time}
    (hd : run.databricksComputeStartDeadlineAt = some d) (passed : d ≤ now)
    (waits : run'.WaitsForCompute) : run.WaitsForCompute := by
  cases h with
  | requestCancel =>
    refine StageFollows.waits ?_ waits
    simp only [PipelineRun.requestCancel]
    split_ifs
    · exact .inl ⟨rfl, rfl⟩
    · exact .inr rfl
    · exact .inl ⟨rfl, rfl⟩
  | review userId h =>
    unfold PipelineRun.recordReconciliationReview at h
    split_ifs at h
    cases h
    exact waits
  | claim active runId hc h => exact StageFollows.waits (.inr (claim_stage h)) waits
  | event => exact waits
  | @worker token call run' h =>
    by_cases deferral : ∃ attempts poll, call = .deferRunForDatabricksCompute attempts poll
    · obtain ⟨attempts, poll, rfl⟩ := deferral
      obtain ⟨⟨released, row⟩, hd', rfl⟩ := map_eq_ok.1 h
      rcases deferral_at_deadline hd passed hd' with ⟨-, cancelled⟩ | ⟨-, rfl⟩
      · rw [waits.1] at cancelled
        cases cancelled
      · exact waits
    · exact (effect_stage (fun attempts poll same => deferral ⟨attempts, poll, same⟩) h).waits waits

end Deferrals

/-! ## Runs of the system -/

section System

variable {R : Redaction} {iso : Time → String} {s s' : Time × Database}

/-- A run stays in the table with a deadline that does not move back; once the deadline has passed, a
run that does not wait never waits again. -/
theorem deadline_of_steps (steps : (runSystem R iso).Steps s s') :
    s.1 ≤ s'.1 ∧ ∀ run ∈ s.2.runs, ∃ run' ∈ s'.2.runs, run'.id = run.id ∧
      Tightens run.databricksComputeStartDeadlineAt run'.databricksComputeStartDeadlineAt ∧
      ∀ d, run.databricksComputeStartDeadlineAt = some d → d ≤ s.1 → ¬ run.WaitsForCompute →
        ¬ run'.WaitsForCompute := by
  induction steps with
  | refl => exact ⟨Int.le_refl _, fun run hr => ⟨run, hr, rfl, .refl _, fun _ _ _ awake => awake⟩⟩
  | tail steps next ih =>
    obtain ⟨i, hs⟩ := next
    obtain ⟨later, -⟩ := runSystem_step_iff.1 hs
    have time := congrArg Prod.fst (runSystem_step_iff.1 hs).2
    refine ⟨?_, fun run hr => ?_⟩
    · rw [time]
      exact Int.le_trans ih.1 later
    · obtain ⟨run₁, hr₁, id₁, tightens₁, awake₁⟩ := ih.2 run hr
      obtain ⟨run₂, hr₂, id₂, rfl | row⟩ := row_of_step hs hr₁
      · exact ⟨run₂, hr₂, id₂.trans id₁, tightens₁, awake₁⟩
      · refine ⟨run₂, hr₂, id₂.trans id₁, tightens₁.trans row.tightens, ?_⟩
        intro d hd passed awake waits
        obtain ⟨d₁, hd₁, le⟩ := tightens₁ d hd
        have due : d₁ ≤ i.1 := Int.le_trans le (Int.le_trans passed (Int.le_trans ih.1 later))
        exact awake₁ d hd passed awake (row.waits hd₁ due waits)

end System

/-! ## The end of a claim -/

/-- What happens around a call of a worker: its time, what others did before it, and its reply. -/
structure Around where
  now : Time
  others : List ServiceCall
  reply : Reply

/-- The database that the call finds. -/
def Around.before (R : Redaction) (iso : Time → String) (o : Around) (db : Database) : Database :=
  o.others.foldl (fun db call => db.perform R iso o.now call) db

/-- A call of a worker on its run. -/
def Worker.handle (R : Redaction) (iso : Time → String) (w : Worker) (o : Around) (db : Database)
    (c : Call) : Except Exn c.Answer × Database :=
  (w.outcome R o.now (o.before R iso db) o.reply c, w.written R iso o.now (o.before R iso db) o.reply c)

section Handler

variable {R : Redaction} {iso : Time → String} {w : Worker} {o : Around} {db db' : Database}

theorem before_steps (R : Redaction) (iso : Time → String) (o : Around) (db : Database) :
    (runSystem R iso).Steps (o.now, db) (o.now, o.before R iso db) := by
  unfold Around.before
  induction o.others generalizing db with
  | nil => exact .refl
  | cons call calls ih =>
    refine .head ⟨(o.now, call), ?_⟩ (ih _)
    exact runSystem_step_iff.2 ⟨Int.le_refl _, rfl⟩

/-- The run of a worker with the deadline `d`, or an earlier one. -/
def HasDeadline (w : Worker) (d : Time) (db : Database) : Prop :=
  ∃ run ∈ db.runs, run.id = w.runId ∧ Tightens (some d) run.databricksComputeStartDeadlineAt

theorem HasDeadline.before {d : Time} (h : HasDeadline w d db) (R : Redaction)
    (iso : Time → String) (o : Around) :
    HasDeadline w d (o.before R iso db) := by
  obtain ⟨run, hr, hid, tightens⟩ := h
  obtain ⟨run', hr', hid', tightens', -⟩ :=
    (deadline_of_steps (before_steps R iso o db)).2 run hr
  exact ⟨run', hr', hid'.trans hid, tightens.trans tightens'⟩

/-- A call of the service layer that returns has changed the row of the worker. -/
theorem handle_service {call : WorkerCall} {row : PipelineRun}
    (h : (w.handle R iso o db (.service call)).1 = .ok row) :
    ∃ run, (o.before R iso db).getRun w.runId = some run ∧
      call.effect R o.now w.token run = .ok row ∧
      (w.handle R iso o db (.service call)).2 = (o.before R iso db).putRun row := by
  simp only [Worker.handle, Worker.outcome] at h
  split at h
  · cases h
  · rename_i calm
    simp only [Worker.answer] at h
    split at h
    · cases h
    · rename_i run found
      refine ⟨run, found, h, ?_⟩
      simp [Worker.handle, Worker.written, Worker.serviceCall?, calm, Database.perform, Database.step,
        found, h]

theorem handle_deferral {poll : Int} {released : Bool}
    (h : (w.handle R iso o db (.deferRunForDatabricksCompute poll)).1 = .ok released) :
    ∃ run row, (o.before R iso db).getRun w.runId = some run ∧
      run.deferRunForDatabricksCompute R o.now o.reply.attempts poll w.token = .ok (released, row) ∧
      (w.handle R iso o db (.deferRunForDatabricksCompute poll)).2 =
        (o.before R iso db).putRun row := by
  simp only [Worker.handle, Worker.outcome] at h
  split at h
  · cases h
  · rename_i calm
    simp only [Worker.answer] at h
    split at h
    · cases h
    · rename_i run found
      obtain ⟨⟨released, row⟩, deferred, rfl⟩ := map_eq_ok.1 h
      refine ⟨run, row, found, deferred, ?_⟩
      simp [Worker.handle, Worker.written, Worker.serviceCall?, calm, Database.perform, Database.step,
        found, WorkerCall.effect, deferred]

/-- The run of the worker has ended. -/
def RunEnded (w : Worker) (db : Database) : Prop :=
  ∃ run ∈ db.runs, run.id = w.runId ∧ run.Terminal

theorem runEnded_putRun {db : Database} {run row : PipelineRun} (found : db.getRun w.runId = some run)
    (id : row.id = run.id) (ended : row.Terminal) : RunEnded w (db.putRun row) := by
  obtain ⟨hr, hid⟩ := Database.mem_of_getRun found
  exact ⟨row, Database.mem_putRun.2 (.inr ⟨rfl, run, hr, id.symm⟩), id.trans hid, ended⟩

variable {d : Time}

/-- The calls of the worker from the deadline on. -/
abbrev handleFrom (R : Redaction) (iso : Time → String) (w : Worker) (d : Time)
    (o : { o : Around // d ≤ o.now }) (db : Database) (c : Call) : Except Exn c.Answer × Database :=
  w.handle R iso o.1 db c

/-- A program whose last call ends the run. -/
theorem runEnded_of_last {call : WorkerCall} {events : List (Program.Event Call.Answer Exn)}
    (ends : ∀ now run row, call.effect R now w.token run = .ok row → row.Terminal)
    (runs : Runs (do let _ ← ask (.service call); return () : Transfer Unit) events (.pure ()))
    (served : Served (handleFrom R iso w d) db events db') : RunEnded w db' := by
  cases runs with
  | @step c next r events q runs =>
    obtain ⟨o, answer, rest⟩ := served.first
    cases r with
    | error e => cases runs
    | ok row =>
      cases runs
      cases rest
      obtain ⟨run, found, effect, written⟩ := handle_service answer
      have id : row.id = run.id := congrArg Prod.fst (effect_identity effect)
      rw [show handleFrom R iso w d o db (.service call) = w.handle R iso o.1 db (.service call) from
        rfl, written]
      exact runEnded_putRun found id (ends o.1.now run row effect)

theorem failRun_ends {a : FailArgs} (now : Time) (run row : PipelineRun)
    (h : (WorkerCall.failRun a).effect R now w.token run = .ok row) : row.Terminal := by
  obtain ⟨-, h⟩ := guarded_ok_iff.1 h
  cases h
  exact recordFailure_terminal R now run a _

theorem blockComputeReadiness_ends {summary : String} (now : Time) (run row : PipelineRun)
    (h : (WorkerCall.blockComputeReadiness summary).effect R now w.token run = .ok row) :
    row.Terminal := by
  obtain ⟨-, h⟩ := guarded_ok_iff.1 h
  cases h
  show PipelineRunStatus.blocked ∈ terminalStatuses
  decide

/-- When the compute is still not ready at the deadline, the worker ends the run, unless it has lost
the lease. -/
theorem runEnded_at_deadline {env : WorkerEnv} {failed : PipelineRun} {e : ConnectorError}
    {events : List (Program.Event Call.Answer Exn)} (code : e.code = .computeNotReady)
    (deadline : HasDeadline w d db)
    (runs : Runs (recordConnectorError env failed e) events (.pure ()))
    (served : Served (handleFrom R iso w d) db events db') : RunEnded w db' := by
  unfold recordConnectorError at runs
  by_cases retryable : e.retryable = true
  · rw [if_pos ⟨code, retryable⟩] at runs
    cases runs with
    | @step c next r events q runs =>
      obtain ⟨o, answer, rest⟩ := served.first
      cases r with
      | error e => cases runs
      | ok released =>
        obtain ⟨run, row, found, deferred, written⟩ := handle_deferral answer
        have id : row.id = run.id := by
          obtain ⟨_, same⟩ := deferRunForDatabricksCompute_frame deferred
          exact congrArg (fun f => f.1.1) same
        obtain ⟨run', hr', hid', tightens⟩ := deadline.before R iso o.1
        obtain ⟨hr, hid⟩ := Database.mem_of_getRun found
        obtain rfl := Database.eq_of_id_eq hr' hr (hid'.trans hid.symm)
        obtain ⟨d', hd', le⟩ := tightens d rfl
        have passed : d' ≤ o.1.now := Int.le_trans le o.2
        rcases deferral_at_deadline hd' passed deferred with ⟨rfl, cancelled⟩ | ⟨rfl, rfl⟩
        · cases runs
          cases rest
          rw [show handleFrom R iso w d o db _ = w.handle R iso o.1 db _ from rfl, written]
          refine runEnded_putRun found id ?_
          rw [PipelineRun.Terminal, cancelled]
          decide
        · exact runEnded_of_last failRun_ends runs rest
  · rw [if_neg fun h => retryable h.2] at runs
    split_ifs at runs with readiness
    · exact runEnded_of_last blockComputeReadiness_ends runs served
    · exact runEnded_of_last failRun_ends runs served

end Handler

/-- Waiting for compute is bounded: deadlines only move forward, a deferral leaves the run due before
its deadline, and at the deadline the run is not requeued but ended. -/
theorem compute_wait_bounded (R : Redaction) (iso : Time → String) :
    (∀ s s', (runSystem R iso).Steps s s' → ∀ run ∈ s.2.runs, ∃ run' ∈ s'.2.runs,
      run'.id = run.id ∧
      (∀ d, run.databricksComputeStartDeadlineAt = some d →
        ∃ d', run'.databricksComputeStartDeadlineAt = some d' ∧ d' ≤ d) ∧
      ∀ d, run.databricksComputeStartDeadlineAt = some d → d ≤ s.1 → ¬ run.WaitsForCompute →
        ¬ run'.WaitsForCompute) ∧
    (∀ (now : Time) (run : PipelineRun) (attempts : String → Option ComputeAttempt) (poll : Int)
      (token : Token) (run' : PipelineRun),
      run.deferRunForDatabricksCompute R now attempts poll token = .ok (true, run') →
      run'.WaitsForCompute →
      ∃ next d, run'.nextAttemptAt = some next ∧ run'.databricksComputeStartDeadlineAt = some d ∧
        next ≤ d ∧
        ∀ attempt, run'.linkedAttempt attempts = some attempt → next ≤ attempt.deadlineAt) ∧
    (∀ (now : Time) (run : PipelineRun) (attempts : String → Option ComputeAttempt) (poll : Int)
      (token : Token) (released : Bool) (run' : PipelineRun) (d : Time),
      run.databricksComputeStartDeadlineAt = some d → d ≤ now →
      run.deferRunForDatabricksCompute R now attempts poll token = .ok (released, run') →
      (released = true ∧ run'.status = .cancelled) ∨ (released = false ∧ run' = run)) ∧
    ∀ (w : Worker) (env : WorkerEnv) (failed : PipelineRun) (e : ConnectorError) (d : Time)
      (db db' : Database) (events : List (Program.Event Call.Answer Exn)),
      e.code = .computeNotReady → HasDeadline w d db →
      Runs (recordConnectorError env failed e) events (.pure ()) →
      Served (handleFrom R iso w d) db events db' → RunEnded w db' := by
  refine ⟨fun s s' steps run hr => (deadline_of_steps steps).2 run hr, ?_, ?_, ?_⟩
  · exact fun now run attempts poll token run' deferred waits => due_of_deferral waits deferred
  · exact fun now run attempts poll token released run' d => deferral_at_deadline
  · exact fun w env failed e d db db' events => runEnded_at_deadline

/-- A claimed run that has waited for compute until the fifth second. -/
def waitedDatabase : Database where
  pipelines := []
  runs := [{ PipelineRun.sample with databricksComputeStartDeadlineAt := some (seconds 5) }]
  primaryKey := by decide

/-- Its worker. -/
def waitedWorker : Worker where
  runId := "run"
  token := ⟨"token", token_ne_empty⟩
  job := none
  program := .pure ()

/-- The compute is still not ready. -/
def stillNotReady : ConnectorError where
  code := .computeNotReady
  summary := "Databricks compute is not ready."
  retryable := true

/-- Nothing else happens in the sixth second. -/
def sixthSecond : { o : Around // seconds 5 ≤ o.now } :=
  ⟨{ now := seconds 6, others := [], reply := { answer := sampleAnswer } }, by decide⟩

theorem compute_wait_bounded_sixthSecond : ∃ db',
    Served (handleFrom .trivial (fun _ => "") waitedWorker (seconds 5)) waitedDatabase
      (Program.playServed (handleFrom .trivial (fun _ => "") waitedWorker (seconds 5)) sixthSecond 2
        waitedDatabase (recordConnectorError .sample .sample stillNotReady)).1 db' ∧
    RunEnded waitedWorker db' := by
  have ended : (Program.playServed (handleFrom .trivial (fun _ => "") waitedWorker (seconds 5))
      sixthSecond 2 waitedDatabase (recordConnectorError .sample .sample stillNotReady)).2.2 =
      .pure () := by
    rfl
  have runs := Program.runs_playServed (handleFrom .trivial (fun _ => "") waitedWorker (seconds 5))
    sixthSecond 2 waitedDatabase (recordConnectorError .sample .sample stillNotReady)
  have served := Program.served_playServed
    (handleFrom .trivial (fun _ => "") waitedWorker (seconds 5)) sixthSecond 2 waitedDatabase
    (recordConnectorError .sample .sample stillNotReady)
  rw [ended] at runs
  refine ⟨_, served, ?_⟩
  refine (compute_wait_bounded .trivial fun _ => "").2.2.2 waitedWorker .sample .sample
    stillNotReady (seconds 5) waitedDatabase _ _ rfl ?_ runs served
  exact ⟨_, List.mem_singleton_self _, rfl, .refl _⟩

end DataMover
