import DataMover.Transition
import DataMover.Runs.Lifecycle

/-!
# The run table

The transition system of the service layer: any sequence of calls by any number of users and workers,
each one atomic.  `Database.step_cases` says once what a call can do to the table: nothing, insert a
queued row, or replace one row by a `RowStep`.  Every invariant of single rows is then an instance of
`rows_invariant`.
-/

namespace DataMover

open PipelineRunStatus Transition

/-- The calls of the service layer; a worker call names its run and presents its token. -/
inductive ServiceCall where
  | enqueueRun (a : Database.EnqueueArgs)
  | requestCancel (userId runId : String)
  | recordReconciliationReview (userId runId : String)
  | claimRun (active : String → Bool) (workerId : String) (leaseSeconds : Int)
      (runId : Option String) (newToken : Token)
  | appendEvent (runId message : String) (stage : Option Stage) (level : Level)
  | worker (runId : String) (token : Token) (call : WorkerCall)

namespace Database

/-- The database that a call commits, or the exception it raises. -/
def step (R : Redaction) (iso : Time → String) (now : Time) (db : Database) :
    ServiceCall → Except Exn Database
  | .enqueueRun a => Prod.fst <$> db.enqueueRun R now a
  | .requestCancel userId runId =>
    (fun run => db.putRun (run.requestCancel R now)) <$> db.ownedRun userId runId
  | .recordReconciliationReview userId runId => do
    let run ← db.ownedRun userId runId
    db.putRun <$> run.recordReconciliationReview R iso now
  | .claimRun active workerId leaseSeconds runId newToken =>
    Prod.fst <$> db.claimRun R now active workerId leaseSeconds runId newToken
  | .appendEvent runId message stage level =>
    match db.getRun runId with
    | none => .error (.runConflict "The pipeline run no longer exists.")
    | some run => .ok (db.putRun (run.appendEvent R now message stage level))
  | .worker runId token call =>
    match db.getRun runId with
    | none => .error (.other "InvalidRequestError")
    | some run => db.putRun <$> call.effect R now token run

/-- The database after a call; a call that raises is rolled back. -/
def perform (R : Redaction) (iso : Time → String) (now : Time) (db : Database)
    (call : ServiceCall) : Database :=
  match db.step R iso now call with
  | .ok db' => db'
  | .error _ => db

/-! ## Rows and keys -/

section Rows

variable {db : Database} {run run' : PipelineRun}

theorem mem_of_getRun {runId : String} (h : db.getRun runId = some run) :
    run ∈ db.runs ∧ run.id = runId :=
  ⟨List.mem_of_find?_eq_some h, by simpa using List.find?_some h⟩

theorem eq_of_id_eq (h : run ∈ db.runs) (h' : run' ∈ db.runs) (hid : run.id = run'.id) :
    run = run' :=
  List.inj_on_of_nodup_map db.primaryKey h h' hid

theorem getRun_of_mem (h : run ∈ db.runs) : db.getRun run.id = some run := by
  rcases hf : db.getRun run.id with _ | r
  · have := List.find?_eq_none.1 hf run h
    simp at this
  · obtain ⟨hr, hid⟩ := mem_of_getRun hf
    rw [eq_of_id_eq hr h hid]

theorem ownedRun_ok {userId runId : String} (h : db.ownedRun userId runId = .ok run) :
    run ∈ db.runs ∧ run.id = runId := by
  unfold ownedRun at h
  split at h
  · split_ifs at h
    cases h
    exact mem_of_getRun ‹_›
  · cases h

theorem mem_putRun {r : PipelineRun} :
    r ∈ (db.putRun run).runs ↔
      (r ∈ db.runs ∧ r.id ≠ run.id) ∨ (r = run ∧ ∃ r₀ ∈ db.runs, r₀.id = run.id) := by
  simp only [putRun, List.mem_map]
  constructor
  · rintro ⟨r₀, h₀, rfl⟩
    by_cases hid : r₀.id = run.id
    · exact .inr ⟨if_pos hid, r₀, h₀, hid⟩
    · rw [if_neg hid]
      exact .inl ⟨h₀, hid⟩
  · rintro (⟨hr, hid⟩ | ⟨rfl, r₀, h₀, hid⟩)
    · exact ⟨r, hr, if_neg hid⟩
    · exact ⟨r₀, h₀, if_pos hid⟩

theorem putRun_self (h : run ∈ db.runs) : db.putRun run = db := by
  have same : (db.runs.map fun r => if r.id = run.id then run else r) = db.runs := by
    refine (List.map_congr_left fun r hr => ?_).trans (List.map_id db.runs)
    by_cases hid : r.id = run.id
    · rw [if_pos hid, eq_of_id_eq hr h hid, id]
    · rw [if_neg hid, id]
  cases db
  simp only [putRun] at same ⊢
  congr

end Rows

end Database

/-! ## What a call does to a row -/

/-- The columns that no call writes after the insert. -/
def PipelineRun.identity (run : PipelineRun) : String × Option String × String × Time :=
  (run.id, run.pipelineDefinitionId, run.userId, run.createdAt)

/-- The identity with the columns that only counting and waiting for compute write. -/
def PipelineRun.frame (run : PipelineRun) :
    (String × Option String × String × Time) × (Nat × Nat) × Option Time :=
  (run.identity, (run.sourceRows, run.loadedRows), run.databricksComputeStartDeadlineAt)

/-- The calls that write the columns of the frame. -/
def WorkerCall.framing : WorkerCall → Bool
  | requestComputeStart _ _ _ _ | deferRunForDatabricksCompute _ _ | addCounters _ => true
  | _ => false

section Identity

open PipelineRun

variable {R : Redaction} {now : Time} {run run' : PipelineRun}

@[simp] theorem setStatus_frame (s : PipelineRunStatus) (token : Option Token) :
    (run.setStatus now s token).frame = run.frame := by
  unfold setStatus
  split_ifs
  · rfl
  · cases token <;> rfl

theorem applyTransition_frame {s : PipelineRunStatus} {token : Option Token}
    (h : run.applyTransition now s token = .ok run') : run'.frame = run.frame := by
  obtain ⟨-, rfl⟩ := (applyTransition_ok_iff ..).1 h
  exact setStatus_frame s token

theorem effect_frame {token : Token} {call : WorkerCall} (other : call.framing = false)
    (h : call.effect R now token run = .ok run') : run'.frame = run.frame := by
  cases call with
  | requestComputeStart | deferRunForDatabricksCompute | addCounters => cases other
  | renewLease leaseSeconds =>
    simp only [WorkerCall.effect, PipelineRun.renewLease, Except.ok.injEq] at h
    split_ifs at h <;> subst h <;> rfl
  | transition next message =>
    obtain ⟨-, h⟩ := guarded_ok_iff.1 h
    obtain ⟨r, hr, h⟩ := bind_eq_ok.1 h
    rw [← applyTransition_frame hr]
    cases h
    split_ifs <;> rfl
  | blockRun summary guardrail =>
    obtain ⟨-, h⟩ := guarded_ok_iff.1 h
    obtain ⟨r, hr, h⟩ := bind_eq_ok.1 h
    have same := applyTransition_frame hr
    cases h
    exact same
  | failRun a =>
    obtain ⟨-, h⟩ := guarded_ok_iff.1 h
    cases h
    exact setStatus_frame ..
  | cancelClaimedRun dataImpact =>
    obtain ⟨-, h⟩ := guarded_ok_iff.1 h
    cases h
    exact setStatus_frame ..
  | blockComputeReadiness | heartbeat | recordGuardrailReview | completeRun =>
    obtain ⟨-, h⟩ := guarded_ok_iff.1 h
    cases h
    rfl

/-- A deferral writes the deadline of the frame. -/
theorem deferRunForDatabricksCompute_frame {attempts : String → Option ComputeAttempt}
    {poll : Int} {token : Token} {released : Bool}
    (h : run.deferRunForDatabricksCompute R now attempts poll token = .ok (released, run')) :
    ∃ deadline, run'.frame = (run.identity, (run.sourceRows, run.loadedRows), deadline) := by
  unfold PipelineRun.deferRunForDatabricksCompute at h
  obtain ⟨-, h⟩ := guarded_ok_iff.1 h
  split_ifs at h
  · cases h
    exact ⟨_, rfl⟩
  · split at h <;> cases h <;> exact ⟨_, rfl⟩

theorem effect_identity {token : Token} {call : WorkerCall}
    (h : call.effect R now token run = .ok run') : run'.identity = run.identity := by
  by_cases other : call.framing = false
  · exact congrArg Prod.fst (effect_frame other h)
  · cases call with
    | requestComputeStart attempts userId connectionGeneration reserved =>
      obtain ⟨-, deadline, attemptId, rfl⟩ := WorkerCall.requestComputeStart_ok h
      rfl
    | deferRunForDatabricksCompute attempts poll =>
      obtain ⟨⟨released, row⟩, hd, rfl⟩ := map_eq_ok.1 h
      obtain ⟨deadline, same⟩ := deferRunForDatabricksCompute_frame hd
      exact congrArg Prod.fst same
    | addCounters =>
      obtain ⟨-, h⟩ := guarded_ok_iff.1 h
      cases h
      rfl
    | _ => exact absurd rfl other

theorem requestCancel_frame : (run.requestCancel R now).frame = run.frame := by
  simp only [requestCancel]
  split_ifs <;> rfl

theorem recordReconciliationReview_frame {iso : Time → String}
    (h : run.recordReconciliationReview R iso now = .ok run') : run'.frame = run.frame := by
  unfold PipelineRun.recordReconciliationReview at h
  split_ifs at h
  cases h
  rfl

theorem lease_frame {stage : Stage} {workerId : String} {leaseSeconds : Int} {newToken : Token}
    {leased : Option Token}
    (h : run.lease R now stage workerId leaseSeconds newToken = .ok (run', leased)) :
    run'.frame = run.frame := by
  unfold lease at h
  split_ifs at h
  · cases h
    rfl
  · obtain ⟨r, hr, h⟩ := bind_eq_ok.1 h
    have same := applyTransition_frame hr
    cases h
    exact same

theorem claim_frame {workerId : String} {leaseSeconds : Int} {newToken : Token}
    {leased : Option Token}
    (h : run.claim R now workerId leaseSeconds newToken = .ok (run', leased)) :
    run'.frame = run.frame := by
  unfold claim at h
  split_ifs at h
  · cases h
    exact setStatus_frame ..
  · have same := lease_frame h
    exact same
  · exact lease_frame h

end Identity

/-- What a call does to the row it is about. -/
inductive RowStep (R : Redaction) (iso : Time → String) (now : Time) (run : PipelineRun) :
    ServiceCall → PipelineRun → Prop
  | requestCancel (userId : String) :
      RowStep R iso now run (.requestCancel userId run.id) (run.requestCancel R now)
  | review (userId : String) {run' : PipelineRun}
      (h : run.recordReconciliationReview R iso now = .ok run') :
      RowStep R iso now run (.recordReconciliationReview userId run.id) run'
  | claim (active : String → Bool) {workerId : String} {leaseSeconds : Int} (runId : Option String)
      {newToken : Token} {run' : PipelineRun} {leased : Option Token}
      (hc : run.claimable now = true)
      (h : run.claim R now workerId leaseSeconds newToken = .ok (run', leased)) :
      RowStep R iso now run (.claimRun active workerId leaseSeconds runId newToken) run'
  | event (message : String) (stage : Option Stage) (level : Level) :
      RowStep R iso now run (.appendEvent run.id message stage level)
        (run.appendEvent R now message stage level)
  | worker {token : Token} {call : WorkerCall} {run' : PipelineRun}
      (h : call.effect R now token run = .ok run') :
      RowStep R iso now run (.worker run.id token call) run'

namespace RowStep

variable {R : Redaction} {iso : Time → String} {now : Time} {run run' : PipelineRun}
  {call : ServiceCall}

/-- Only counting and waiting for compute write the frame. -/
theorem frame (h : RowStep R iso now run call run')
    (other : ∀ token c, call = .worker run.id token c → c.framing = false) :
    run'.frame = run.frame := by
  cases h with
  | requestCancel => exact requestCancel_frame
  | review userId h => exact recordReconciliationReview_frame h
  | claim active runId hc h => exact claim_frame h
  | event => rfl
  | worker h => exact effect_frame (other _ _ rfl) h

theorem identity (h : RowStep R iso now run call run') : run'.identity = run.identity := by
  cases h with
  | worker h => exact effect_identity h
  | requestCancel => exact congrArg Prod.fst requestCancel_frame
  | review userId h => exact congrArg Prod.fst (recordReconciliationReview_frame h)
  | claim active runId hc h => exact congrArg Prod.fst (claim_frame h)
  | event => rfl

theorem id_eq (h : RowStep R iso now run call run') : run'.id = run.id :=
  congrArg Prod.fst h.identity

/-- Every call makes one move of the lifecycle. -/
theorem move (h : RowStep R iso now run call run') (consistent : run.lifecycle.Consistent) :
    Lifecycle.Move run.lifecycle run'.lifecycle := by
  cases h with
  | requestCancel => exact PipelineRun.requestCancel_move
  | review userId h =>
    rw [PipelineRun.recordReconciliationReview_lifecycle h]
    exact .stay _
  | claim active runId hc h => exact PipelineRun.claim_move hc consistent h
  | event message stage level => exact .stay run.lifecycle
  | worker h => exact (WorkerCall.effect_move h).2

end RowStep

namespace Database

variable {R : Redaction} {iso : Time → String} {now : Time} {db db' : Database}

/-- The rows that `enqueue_run` can insert: the caller owns the pipeline, and no run of it is
unresolved. -/
structure Enqueues (R : Redaction) (now : Time) (db : Database) (a : EnqueueArgs)
    (db' : Database) : Prop where
  owned : ∃ p, db.pipelines.find? (fun p => p.id = a.pipelineId) = some p ∧ p.userId = a.userId
  resolved : ∀ run ∈ db.runsOf a.userId a.pipelineId, run.unresolved = false
  inserted : ∃ fresh, db' = db.insertRun (db.newRun R now a) fresh

theorem enqueueRun_ok {a : EnqueueArgs} {run : PipelineRun}
    (h : db.enqueueRun R now a = .ok (db', run)) : db' = db ∨ db.Enqueues R now a db' := by
  unfold enqueueRun at h
  split at h
  · cases h
  · rename_i pipeline hp
    split_ifs at h with ho hu _ _ _ taken
    · split at h <;> cases h
      exact .inl rfl
    · split at h <;> cases h
      · exact .inl rfl
      · refine .inr ⟨⟨pipeline, hp, not_not.1 ho⟩, fun r hr => ?_, taken, rfl⟩
        exact Bool.eq_false_iff.2 fun hu' => hu (List.any_eq_true.2 ⟨r, hr, hu'⟩)

theorem claimRun_ok {active : String → Bool} {workerId : String} {leaseSeconds : Int}
    {runId : Option String} {newToken : Token} {leased : Option (PipelineRun × Token)}
    (h : db.claimRun R now active workerId leaseSeconds runId newToken = .ok (db', leased)) :
    db' = db ∨ ∃ run ∈ db.runs, ∃ run' token, run.claimable now = true ∧
      run.claim R now workerId leaseSeconds newToken = .ok (run', token) ∧ db' = db.putRun run' := by
  unfold claimRun at h
  split at h
  · cases h
    exact .inl rfl
  · rename_i run hs
    obtain ⟨⟨run', token⟩, hc, h⟩ := bind_eq_ok.1 h
    cases h
    have selected := List.argmin_mem hs
    rw [List.mem_filter, Bool.and_eq_true, Bool.and_eq_true] at selected
    exact .inr ⟨run, selected.1, run', token, selected.2.1.1, hc, rfl⟩

/-- Everything a call can do to the table. -/
theorem step_cases {call : ServiceCall} (h : db.step R iso now call = .ok db') :
    db' = db ∨ (∃ a, call = .enqueueRun a ∧ db.Enqueues R now a db') ∨
      ∃ run ∈ db.runs, ∃ run', RowStep R iso now run call run' ∧ db' = db.putRun run' := by
  cases call with
  | enqueueRun a =>
    obtain ⟨⟨d, run⟩, he, rfl⟩ := map_eq_ok.1 h
    exact (enqueueRun_ok he).imp_right fun hi => .inl ⟨a, rfl, hi⟩
  | requestCancel userId runId =>
    obtain ⟨run, ho, rfl⟩ := map_eq_ok.1 h
    obtain ⟨hr, rfl⟩ := ownedRun_ok ho
    exact .inr (.inr ⟨run, hr, _, .requestCancel userId, rfl⟩)
  | recordReconciliationReview userId runId =>
    obtain ⟨run, ho, h⟩ := bind_eq_ok.1 h
    obtain ⟨run', hv, rfl⟩ := map_eq_ok.1 h
    obtain ⟨hr, rfl⟩ := ownedRun_ok ho
    exact .inr (.inr ⟨run, hr, run', .review userId hv, rfl⟩)
  | claimRun active workerId leaseSeconds runId newToken =>
    obtain ⟨⟨d, leased⟩, hc, rfl⟩ := map_eq_ok.1 h
    refine (claimRun_ok hc).imp_right ?_
    rintro ⟨run, hr, run', token, hq, claimed, rfl⟩
    exact .inr ⟨run, hr, run', .claim active runId hq claimed, rfl⟩
  | appendEvent runId message stage level =>
    simp only [step] at h
    split at h
    · cases h
    · rename_i run hg
      cases h
      obtain ⟨hr, rfl⟩ := mem_of_getRun hg
      exact .inr (.inr ⟨run, hr, _, .event message stage level, rfl⟩)
  | worker runId token call =>
    simp only [step] at h
    split at h
    · cases h
    · rename_i run hg
      obtain ⟨run', he, rfl⟩ := map_eq_ok.1 h
      obtain ⟨hr, rfl⟩ := mem_of_getRun hg
      exact .inr (.inr ⟨run, hr, run', .worker he, rfl⟩)

end Database

/-! ## The system -/

/-- One call at a time that is not before the last one. -/
def serviceStep (R : Redaction) (iso : Time → String) (s : Time × Database)
    (i : Time × ServiceCall) : Option (Time × Database) :=
  if s.1 ≤ i.1 then some (i.1, s.2.perform R iso i.1 i.2) else none

/-- Any calls, by anyone, at any monotone times, on a database that starts without runs. -/
def runSystem (R : Redaction) (iso : Time → String) : System (Time × Database) (Time × ServiceCall) :=
  System.ofStep (serviceStep R iso) fun s => s.2.runs = []

theorem runSystem_step_iff {R : Redaction} {iso : Time → String} {s s' : Time × Database}
    {i : Time × ServiceCall} :
    (runSystem R iso).Step s i s' ↔ s.1 ≤ i.1 ∧ s' = (i.1, s.2.perform R iso i.1 i.2) := by
  simp only [runSystem, System.ofStep, serviceStep]
  split_ifs with h
  · simp [h, eq_comm]
  · simp [h]

/-- The worker calls of a step satisfy `A` on the row they are about. -/
def Admits (A : PipelineRun → WorkerCall → Prop) (s : Time × Database) (i : Time × ServiceCall) :
    Prop :=
  ∀ run ∈ s.2.runs, ∀ token call, i.2 = .worker run.id token call → A run call

/-- Without a condition on the calls, every run is admitted. -/
theorem reachable_admitsAll {R : Redaction} {iso : Time → String}
    {s : Time × Database} (h : (runSystem R iso).Reachable s) :
    ((runSystem R iso).restrict (Admits fun _ _ => True)).Reachable s :=
  h.restrict _ fun _ _ _ _ _ _ _ => trivial

section Invariants

variable {R : Redaction} {iso : Time → String} {A : PipelineRun → WorkerCall → Prop}
  {s s' : Time × Database}

theorem perform_cases (now : Time) (db : Database) (call : ServiceCall) :
    db.perform R iso now call = db ∨
      (∃ a, call = .enqueueRun a ∧ db.Enqueues R now a (db.perform R iso now call)) ∨
      ∃ run ∈ db.runs, ∃ run', RowStep R iso now run call run' ∧
        db.perform R iso now call = db.putRun run' := by
  unfold Database.perform
  split
  · exact Database.step_cases ‹_›
  · exact .inl rfl

@[simp] theorem putRun_pipelines (db : Database) (run : PipelineRun) :
    (db.putRun run).pipelines = db.pipelines := rfl

theorem perform_pipelines (now : Time) (db : Database) (call : ServiceCall) :
    (db.perform R iso now call).pipelines = db.pipelines := by
  rcases perform_cases now db call with same | ⟨a, -, -, -, hf, new⟩ | ⟨row, -, row', -, put⟩
  · rw [same]
  · rw [new]; rfl
  · rw [put, putRun_pipelines]

/-- A property that holds of inserted rows and is kept by every admitted call holds of all rows,
always; the pipelines it may mention do not change. -/
theorem rows_invariant {I : List PipelineDefinition → PipelineRun → Prop}
    (fresh : ∀ (db : Database) now a db', db.Enqueues R now a db' →
      I db.pipelines (db.newRun R now a))
    (step : ∀ pipelines now run call run', RowStep R iso now run call run' →
      (∀ token c, call = .worker run.id token c → A run c) → I pipelines run → I pipelines run')
    (h : ((runSystem R iso).restrict (Admits A)).Reachable s) :
    ∀ run ∈ s.2.runs, I s.2.pipelines run := by
  refine h.invariant (I := fun s => ∀ run ∈ s.2.runs, I s.2.pipelines run) ?_ ?_
  · intro s hs run hr
    rw [show s.2.runs = [] from hs] at hr
    cases hr
  · rintro s ⟨now, call⟩ s' - ih ⟨admitted, hs⟩ run hr
    obtain ⟨-, rfl⟩ := runSystem_step_iff.1 hs
    simp only [perform_pipelines] at hr ⊢
    rcases perform_cases now s.2 call with same | ⟨a, -, new⟩ | ⟨row, hrow, row', hs, put⟩
    · rw [same] at hr
      exact ih run hr
    · obtain ⟨hf, inserted⟩ := new.inserted
      rw [inserted] at hr
      rcases List.mem_append.1 hr with hr | hr
      · exact ih run hr
      · rw [List.mem_singleton.1 hr]
        exact fresh s.2 now a _ new
    · rw [put, Database.mem_putRun] at hr
      rcases hr with ⟨hr, -⟩ | ⟨rfl, -⟩
      · exact ih run hr
      · exact step _ now row call run hs (admitted row hrow) (ih row hrow)

theorem newRun_lifecycle (db : Database) (now : Time) (a : Database.EnqueueArgs) :
    (db.newRun R now a).lifecycle = ⟨.queued, .queued, none, none, none, none⟩ := rfl

theorem newRun_consistent (db : Database) (now : Time) (a : Database.EnqueueArgs) :
    (db.newRun R now a).lifecycle.Consistent := by
  rw [newRun_lifecycle]
  exact ⟨by decide, fun ht => absurd ht queued_notMem_terminal,
    fun hw => absurd hw queued_notMem_owned, fun _ => ⟨rfl, rfl, rfl⟩, .inl rfl⟩

/-- Every row of every reachable table is consistent. -/
theorem consistent_of_reachable (h : ((runSystem R iso).restrict (Admits A)).Reachable s) :
    ∀ run ∈ s.2.runs, run.lifecycle.Consistent := by
  refine rows_invariant (I := fun _ run => run.lifecycle.Consistent)
    (fun db now a _ _ => newRun_consistent db now a) ?_ h
  intro _ now run call run' hs _ consistent
  exact (hs.move consistent).consistent consistent

/-- A step leaves a row alone or makes the row step of its call. -/
theorem row_of_step {i : Time × ServiceCall} {run : PipelineRun}
    (hs : (runSystem R iso).Step s i s') (hr : run ∈ s.2.runs) :
    ∃ run' ∈ s'.2.runs, run'.id = run.id ∧ (run' = run ∨ RowStep R iso i.1 run i.2 run') := by
  obtain ⟨now, call⟩ := i
  obtain ⟨-, rfl⟩ := runSystem_step_iff.1 hs
  rcases perform_cases now s.2 call with same | ⟨a, -, new⟩ | ⟨row, hrow, row', hstep, put⟩
  · exact ⟨run, by rwa [same], rfl, .inl rfl⟩
  · obtain ⟨-, -, hf, new⟩ := new
    exact ⟨run, by rw [new]; exact List.mem_append_left _ hr, rfl, .inl rfl⟩
  · simp only [put, Database.mem_putRun]
    by_cases hid : run.id = row'.id
    · have hrun : run = row := Database.eq_of_id_eq hr hrow (hid.trans hstep.id_eq)
      subst hrun
      exact ⟨row', .inr ⟨rfl, run, hr, hid⟩, hid.symm, .inr hstep⟩
    · exact ⟨run, .inl ⟨hr, hid⟩, rfl, .inl rfl⟩

/-- What a run of the system keeps of a row: its key, and its lifecycle once it is terminal. -/
def Keeps (s s' : Time × Database) : Prop :=
  ∀ run ∈ s.2.runs, ∃ run' ∈ s'.2.runs, run'.identity = run.identity ∧
    (run.Terminal → run'.lifecycle = run.lifecycle)

theorem keeps_of_step {i : Time × ServiceCall} (h : (runSystem R iso).Reachable s)
    (hs : (runSystem R iso).Step s i s') : Keeps s s' := by
  intro run hr
  have consistent := consistent_of_reachable (reachable_admitsAll h) run hr
  obtain ⟨run', hr', -, rfl | hstep⟩ := row_of_step hs hr
  · exact ⟨run', hr', rfl, fun _ => rfl⟩
  · exact ⟨run', hr', hstep.identity, fun ht => (hstep.move consistent).eq_of_terminal consistent ht⟩

theorem keeps_of_steps (h : (runSystem R iso).Reachable s) (hs : (runSystem R iso).Steps s s') :
    Keeps s s' := by
  refine h.guarantee (G := Keeps) (fun s run hr => ⟨run, hr, rfl, fun _ => rfl⟩) ?_
    (fun s i s' h hs => keeps_of_step h hs) hs
  intro s t u hst htu run hr
  obtain ⟨run₁, h₁, hid₁, hl₁⟩ := hst run hr
  obtain ⟨run₂, h₂, hid₂, hl₂⟩ := htu run₁ h₁
  refine ⟨run₂, h₂, hid₂.trans hid₁, fun ht => ?_⟩
  have same : run₁.status = run.status := congrArg Lifecycle.status (hl₁ ht)
  have terminal₁ : run₁.Terminal := by rwa [PipelineRun.Terminal, same]
  exact (hl₂ terminal₁).trans (hl₁ ht)

/-- An owned row is claimable from the end of its lease on. -/
theorem claimable_of_expired {run : PipelineRun} {expires now : Time} (owned : run.WorkerOwned)
    (he : run.leaseExpiresAt = some expires) (hle : expires ≤ now) : run.claimable now = true := by
  simp [PipelineRun.claimable, owned, he, hle]

/-- A refused call leaves the database as it is. -/
theorem perform_of_refused {db : Database} {run : PipelineRun} {now : Time} {token : Token}
    {call : WorkerCall} (hr : run ∈ db.runs) (refused : call.Refused R now token run) :
    db.perform R iso now (.worker run.id token call) = db := by
  simp only [Database.perform, Database.step, Database.getRun_of_mem hr]
  rcases refused with ⟨leaseSeconds, rfl, unchanged⟩ | ⟨message, raised⟩
  · simp only [WorkerCall.effect, unchanged]
    exact Database.putRun_self hr
  · rw [raised]
    rfl

/-- The lifecycle of every run, in every reachable state of the service layer. -/
theorem run_lifecycle (h : (runSystem R iso).Reachable s) : ∀ run ∈ s.2.runs,
    (∀ s', (runSystem R iso).Steps s s' → run.Terminal →
      ∃ run', s'.2.getRun run.id = some run' ∧ run'.status = run.status) ∧
    (run.Terminal ↔ run.finishedAt.isSome) ∧
    (run.Terminal → run.workerId = none ∧ run.leaseToken = none ∧ run.leaseExpiresAt = none) ∧
    (run.WorkerOwned → run.leaseToken.isSome ∧ ∃ expires, run.leaseExpiresAt = some expires ∧
      ∀ now, expires ≤ now → run.claimable now = true) ∧
    (run.status = .queued →
      run.workerId = none ∧ run.leaseToken = none ∧ run.leaseExpiresAt = none) ∧
    (run.stage = stageForStatus run.status ∨
      run.stage = .waitingForCompute ∧ run.status = .queued) ∧
    ∀ now token call, ¬ run.LeaseHeld now token →
      WorkerCall.Refused R now token run call ∧
      s.2.perform R iso now (.worker run.id token call) = s.2 := by
  intro run hr
  have consistent := consistent_of_reachable (reachable_admitsAll h) run hr
  refine ⟨fun s' hs ht => ?_, consistent.terminal_iff, consistent.unleased_of_terminal,
    fun owned => ?_, consistent.unleased_of_queued, consistent.stage_eq, fun now token call hn => ?_⟩
  · obtain ⟨run', hr', hid, hl⟩ := keeps_of_steps h hs run hr
    have sameId : run'.id = run.id := congrArg Prod.fst hid
    exact ⟨run', sameId ▸ Database.getRun_of_mem hr', congrArg Lifecycle.status (hl ht)⟩
  · obtain ⟨leased, dated⟩ := consistent.leased_of_owned owned
    obtain ⟨expires, he⟩ := Option.isSome_iff_exists.1 dated
    exact ⟨leased, expires, he, fun now hle => claimable_of_expired owned he hle⟩
  · have refused := WorkerCall.refused_of_not_leaseHeld (R := R) call hn
    exact ⟨refused, perform_of_refused hr refused⟩

end Invariants

/-- A redaction that finds nothing to redact. -/
def Redaction.trivial : Redaction := ⟨id, id⟩

/-- The table after a list of calls. -/
abbrev replay (s : Time × Database) (calls : List (Time × ServiceCall)) :
    Option (Time × Database) :=
  run (serviceStep .trivial fun _ => "") s calls

/-- A pipeline without runs. -/
def onePipeline : Time × Database := (0, ⟨[⟨"pipeline", "user"⟩], [], by simp⟩)

/-- One run, queued and claimed for sixty seconds. -/
def claimCalls : List (Time × ServiceCall) := [
  (1, .enqueueRun {
    userId := "user", pipelineId := "pipeline", snapshotJson := "", routeAllowed := true,
    writerEnabled := true, newId := "run" }),
  (2, .claimRun (fun _ => true) "worker" 60 none ⟨"token", token_ne_empty⟩)]

/-- The table after these calls. -/
def claimedTable : Option (Time × Database) := replay onePipeline claimCalls

theorem claimedTable_reachable {s : Time × Database} (h : claimedTable = some s) :
    (runSystem .trivial fun _ => "").Reachable s :=
  (System.Reachable.init rfl).steps (steps_of_run h)

theorem run_lifecycle_claimedTable : ∃ s, claimedTable = some s ∧ s.2.runs.length = 1 ∧
    ∀ run ∈ s.2.runs, run.status = .validating ∧ run.leaseToken.isSome ∧
      ∃ expires, run.leaseExpiresAt = some expires ∧ ∀ now, expires ≤ now → run.claimable now := by
  obtain ⟨s, hs⟩ := Option.isSome_iff_exists.1 (by decide : claimedTable.isSome)
  have rows : ∀ t ∈ claimedTable, t.2.runs.length = 1 ∧
      ∀ run ∈ t.2.runs, run.status = .validating := by decide
  refine ⟨s, hs, (rows s hs).1, fun run hr => ?_⟩
  have status := (rows s hs).2 run hr
  have owned : run.WorkerOwned := by rw [PipelineRun.WorkerOwned, status]; decide
  exact ⟨status, (run_lifecycle (claimedTable_reachable hs) run hr).2.2.2.1 owned⟩

end DataMover
