import DataMover.Engine.Conformance
import DataMover.Runs.Writing

/-!
# The fleet

Any number of workers over one database.  A worker is at some point of `process_one`; its database
calls have their real outcome unless they are interrupted, and everything else is answered by an
oracle that only has to keep the contract of the destination: `finalize` returns only after it has
committed, and `abort` reports a rollback only when nothing was committed.  Users act beside the
workers, and a worker that makes no further step has crashed.
-/

namespace DataMover

open PipelineRunStatus Transition
open Program (Sat)

/-! ## Workers -/

/-- A worker with the run it has claimed; `committed` says what the destination did. -/
structure Worker where
  runId : String
  token : Token
  job : Option Job
  program : Transfer Unit
  progress : Progress := {}
  committed : Bool := false

/-- A worker that has just claimed a run. -/
def Worker.start (env : WorkerEnv) (run : PipelineRun) (token : Token) : Worker where
  runId := run.id
  token := token
  job := env.job? run
  program := processOne env run

/-- How the next call of a worker is answered. -/
structure Reply where
  /-- What the connectors, the clock and the worker's own checks return or raise. -/
  answer : (c : Call) → Except Exn c.Answer
  attempts : String → Option PipelineRun.ComputeAttempt := fun _ => none
  /-- What an interrupted call raises. -/
  interrupted : Option Exn := none
  /-- The interrupted call had already reached the database. -/
  applied : Bool := false
  /-- The destination committed although `finalize` raised. -/
  commits : Bool := false

namespace Worker

variable (R : Redaction) (iso : Time → String) (now : Time) (db : Database) (w : Worker)
  (reply : Reply)

/-- What a call writes to the run table. -/
def serviceCall? : Call → Option ServiceCall
  | .service call => some (.worker w.runId w.token call)
  | .deferRunForDatabricksCompute poll =>
    some (.worker w.runId w.token (.deferRunForDatabricksCompute reply.attempts poll))
  | .appendEvent message stage => some (.appendEvent w.runId message (some stage) .info)
  | _ => none

/-- What a call returns or raises when it is not interrupted. -/
def answer : (c : Call) → Except Exn c.Answer
  | .service call =>
    match db.getRun w.runId with
    | none => .error (.other "InvalidRequestError")
    | some run => call.effect R now w.token run
  | .deferRunForDatabricksCompute poll =>
    match db.getRun w.runId with
    | none => .error (.other "InvalidRequestError")
    | some run => Prod.fst <$> run.deferRunForDatabricksCompute R now reply.attempts poll w.token
  | .appendEvent _ _ =>
    match db.getRun w.runId with
    | none => .error (.runConflict "The pipeline run no longer exists.")
    | some _ => .ok ()
  | .getRun => .ok (db.getRun w.runId)
  | c => reply.answer c

/-- What a call returns or raises. -/
def outcome (c : Call) : Except Exn c.Answer :=
  match reply.interrupted with
  | some e => .error e
  | none => w.answer R now db reply c

/-- The database after a call. -/
def written (c : Call) : Database :=
  match w.serviceCall? reply c with
  | none => db
  | some call =>
    if reply.interrupted.isSome && !reply.applied then db else db.perform R iso now call

/-- The destination commits during this call. -/
def commitsNow : (c : Call) → Except Exn c.Answer → Bool
  | .finalize _, .ok _ => true
  | .finalize _, .error _ => reply.commits
  | _, _ => false

/-- The answer breaks the contract of the destination. -/
def breaksContract : (c : Call) → Except Exn c.Answer → Bool
  | .abort _, .ok .rolledBack => w.committed
  | _, _ => false

/-- The worker after its call was answered. -/
def next (c : Call) (k : Except Exn c.Answer → Transfer Unit) (r : Except Exn c.Answer) : Worker :=
  { w with
    program := k r
    progress := w.progress.observe c r
    committed := commitsNow reply c r || w.committed }

end Worker

/-! ## The system -/

/-- The database with the workers that have ever claimed a run. -/
structure Fleet where
  now : Time
  db : Database
  workers : List Worker

/-- What can happen next. -/
inductive FleetCall where
  | user (call : ServiceCall)
  | claim (active : String → Bool) (workerId : String) (leaseSeconds : Int)
      (runId : Option String) (newToken : Token)
  | beside (i : Nat) (call : WorkerCall)
  | work (i : Nat) (reply : Reply)

/-- The calls that users make. -/
def ServiceCall.byUser : ServiceCall → Bool
  | enqueueRun _ | requestCancel _ _ | recordReconciliationReview _ _ => true
  | _ => false

section System

variable (R : Redaction) (iso : Time → String) (env : String → WorkerEnv)

/-- `claim_run` by a worker process, which starts to work on what it gets. -/
def Fleet.claim (s : Fleet) (now : Time) (active : String → Bool) (workerId : String)
    (leaseSeconds : Int) (runId : Option String) (newToken : Token) : Fleet :=
  { now
    db := s.db.perform R iso now (.claimRun active workerId leaseSeconds runId newToken)
    workers := match s.db.claimRun R now active workerId leaseSeconds runId newToken with
      | .ok (_, some (run, token)) => s.workers ++ [.start (env workerId) run token]
      | _ => s.workers }

/-- The next call of a worker. -/
def Fleet.work (s : Fleet) (now : Time) (i : Nat) (w : Worker) (reply : Reply) : Option Fleet :=
  match w.program with
  | .request c k =>
    if w.breaksContract c (w.outcome R now s.db reply c) then none
    else some {
      now
      db := w.written R iso now s.db reply c
      workers := s.workers.set i (w.next reply c k (w.outcome R now s.db reply c)) }
  | _ => none

/-- One event at a time that is not before the last one; lease tokens are fresh. -/
def fleetStep (s : Fleet) (i : Time × FleetCall) : Option Fleet :=
  if s.now ≤ i.1 then
    match i.2 with
    | .user call =>
      if call.byUser then some { s with now := i.1, db := s.db.perform R iso i.1 call } else none
    | .claim active workerId leaseSeconds runId newToken =>
      if newToken ∈ s.workers.map Worker.token then none
      else some (s.claim R iso env i.1 active workerId leaseSeconds runId newToken)
    | .beside k call =>
      (s.workers[k]?).bind fun w =>
        if call.beside then
          some { s with now := i.1, db := s.db.perform R iso i.1 (.worker w.runId w.token call) }
        else none
    | .work k reply => (s.workers[k]?).bind fun w => s.work R iso i.1 k w reply
  else none

/-- Any workers and users, in any order, on a database that starts without runs. -/
def fleet : System Fleet (Time × FleetCall) :=
  System.ofStep (fleetStep R iso env) fun s => s.db.runs = [] ∧ s.workers = []

end System

/-! ## What a step does -/

/-- Everything that can happen to the fleet. -/
inductive FleetStep (R : Redaction) (iso : Time → String) (env : String → WorkerEnv) (s : Fleet)
    (now : Time) : Fleet → Prop
  | foreign (call : ServiceCall) (h : ∀ token, call.Foreign token) :
      FleetStep R iso env s now { s with now := now, db := s.db.perform R iso now call }
  | claim (active : String → Bool) (workerId : String) (leaseSeconds : Int) (runId : Option String)
      {newToken : Token} (fresh : newToken ∉ s.workers.map Worker.token) :
      FleetStep R iso env s now (s.claim R iso env now active workerId leaseSeconds runId newToken)
  | work {i : Nat} {w : Worker} (reply : Reply) {c : Call} {k : Except Exn c.Answer → Transfer Unit}
      (hw : s.workers[i]? = some w) (hp : w.program = .request c k)
      (kept : w.breaksContract c (w.outcome R now s.db reply c) = false) :
      FleetStep R iso env s now {
        now
        db := w.written R iso now s.db reply c
        workers := s.workers.set i (w.next reply c k (w.outcome R now s.db reply c)) }

section Steps

variable {R : Redaction} {iso : Time → String} {env : String → WorkerEnv} {s s' : Fleet}

theorem fleet_step_cases {i : Time × FleetCall} (h : (fleet R iso env).Step s i s') :
    s.now ≤ i.1 ∧ FleetStep R iso env s i.1 s' := by
  obtain ⟨now, call⟩ := i
  simp only [fleet, System.ofStep, fleetStep] at h
  split_ifs at h with later
  refine ⟨later, ?_⟩
  cases call with
  | user call =>
    simp only at h
    split_ifs at h with byUser
    cases h
    refine .foreign call fun token => ?_
    cases call <;> trivial
  | claim active workerId leaseSeconds runId newToken =>
    simp only at h
    split_ifs at h with taken
    cases h
    exact .claim active workerId leaseSeconds runId taken
  | beside i call =>
    obtain ⟨w, -, h⟩ := Option.bind_eq_some_iff.1 h
    split_ifs at h with beside
    cases h
    exact .foreign _ fun token => .inr beside
  | work i reply =>
    obtain ⟨w, hw, h⟩ := Option.bind_eq_some_iff.1 h
    unfold Fleet.work at h
    split at h
    · rename_i c k hp
      split_ifs at h with broken
      cases h
      exact .work reply hw hp (Bool.eq_false_iff.2 broken)
    · cases h

/-- A step makes one call of the service layer, or none. -/
theorem FleetStep.db_eq {now : Time} (h : FleetStep R iso env s now s') :
    s'.db = s.db ∨ ∃ call, s'.db = s.db.perform R iso now call := by
  cases h with
  | foreign call h => exact .inr ⟨call, rfl⟩
  | claim => exact .inr ⟨_, rfl⟩
  | @work i w reply c k hw hp kept =>
    simp only [Worker.written]
    split
    · exact .inl rfl
    · split_ifs
      · exact .inl rfl
      · exact .inr ⟨_, rfl⟩

theorem FleetStep.now_eq {now : Time} (h : FleetStep R iso env s now s') : s'.now = now := by
  cases h <;> rfl

/-- The database of the fleet is reached by calls of the service layer. -/
theorem fleet_refines (h : (fleet R iso env).Reachable s) :
    ∃ t ≤ s.now, (runSystem R iso).Reachable (t, s.db) := by
  refine h.invariant (I := fun s => ∃ t ≤ s.now, (runSystem R iso).Reachable (t, s.db)) ?_ ?_
  · exact fun s init => ⟨s.now, le_rfl, .init init.1⟩
  · rintro s i s' - ⟨t, earlier, reachable⟩ step
    obtain ⟨later, step⟩ := fleet_step_cases step
    rw [step.now_eq]
    rcases step.db_eq with same | ⟨call, called⟩
    · exact ⟨t, earlier.trans later, same ▸ reachable⟩
    · refine ⟨i.1, le_rfl, reachable.step (i := (i.1, call)) ?_⟩
      rw [runSystem_step_iff, called]
      exact ⟨earlier.trans later, rfl⟩

theorem fleet_consistent (h : (fleet R iso env).Reachable s) :
    ∀ run ∈ s.db.runs, run.lifecycle.Consistent := by
  obtain ⟨t, -, reachable⟩ := fleet_refines h
  exact consistent_of_reachable (reachable_admitsAll reachable)

end Steps

/-! ## Orderly progress -/

/-- The order in which a worker passes the points of the transfer. -/
structure Progress.Ordered (p : Progress) : Prop where
  uncounted : p.loading = false → p.counted = some 0
  loading_of_verifying : p.verifying = true → p.loading = true
  verifying_of_finalized : p.finalized ≠ .pending → p.verifying = true
  prepared_once : p.prepared.length ≤ 1
  loading_of_prepared : p.prepared ≠ [] → p.loading = true

/-- The points of the transfer that a worker has passed. -/
def Progress.phase (p : Progress) :
    Bool × Option Nat × Bool × Finalize × List ObjectSchema :=
  (p.loading, p.counted, p.verifying, p.finalized, p.prepared)

namespace Progress.Ordered

variable {job : Option Job} {p q : Progress}

theorem of_phase (h : p.Ordered) (same : q.phase = p.phase) : q.Ordered := by
  simp only [Progress.phase, Prod.mk.injEq] at same
  obtain ⟨l, c, v, f, r⟩ := same
  exact ⟨l ▸ c ▸ h.uncounted, l ▸ v ▸ h.loading_of_verifying, v ▸ f ▸ h.verifying_of_finalized,
    r ▸ h.prepared_once, l ▸ r ▸ h.loading_of_prepared⟩

theorem observeService {call : WorkerCall} (h : p.Ordered)
    (orderly : OrderlyService job p call) (r : Except Exn PipelineRun) :
    (p.observe (.service call) r).Ordered := by
  cases call with
  | transition status message =>
    obtain ⟨pending, -, target⟩ := orderly
    cases r with
    | error e => cases status <;> exact h.of_phase rfl
    | ok run =>
      rcases target with rfl | ⟨rfl, -⟩ | ⟨rfl, loading⟩
      · exact h.of_phase rfl
      · exact ⟨nofun, fun _ => rfl, h.verifying_of_finalized, h.prepared_once, fun _ => rfl⟩
      · exact ⟨h.uncounted, fun _ => loading, fun _ => rfl, h.prepared_once, h.loading_of_prepared⟩
  | addCounters c =>
    obtain ⟨loading, -⟩ := orderly
    have started : p.loading = false → False := fun off => Bool.noConfusion (loading.symm.trans off)
    cases r with
    | ok run => exact ⟨fun off => (started off).elim, h.2, h.3, h.4, h.5⟩
    | error e => exact ⟨fun off => (started off).elim, h.2, h.3, h.4, h.5⟩
  | requestComputeStart | deferRunForDatabricksCompute | blockComputeReadiness | heartbeat
  | renewLease | recordGuardrailReview | blockRun | completeRun | failRun | cancelClaimedRun =>
    cases r <;> exact h.of_phase rfl

theorem observe {c : Call} (h : p.Ordered) (orderly : Orderly job p c) (r : Except Exn c.Answer) :
    (p.observe c r).Ordered := by
  cases c with
  | service call => exact h.observeService orderly r
  | prepareDestination schema policy runId =>
    obtain ⟨loading, fresh, -⟩ := orderly
    have once : (p.prepared ++ [schema]).length ≤ 1 := by
      rw [fresh]
      exact le_rfl
    cases r with
    | ok session => exact ⟨h.1, h.2, h.3, once, fun _ => loading⟩
    | error e => exact ⟨h.1, h.2, h.3, once, fun _ => loading⟩
  | finalize session =>
    obtain ⟨-, verifying, -⟩ := orderly
    cases r with
    | ok manifest => exact ⟨h.1, h.2, fun _ => verifying, h.4, h.5⟩
    | error e => exact ⟨h.1, h.2, fun _ => verifying, h.4, h.5⟩
  | deferRunForDatabricksCompute | appendEvent | getRun | getUser | rollback | credentials
  | refreshPublishedDestinationCache | clock | leaseLost | cancelRequested | testSource
  | inspectSource | extract | closeSource | testDestination | countDestinationRows
  | inspectDestination | writeBatch | abort =>
    cases r <;> exact h.of_phase rfl

end Progress.Ordered

/-! ## A run of the fleet -/

/-- One run whose worker gets these replies. -/
def sampleFleet (replies : List Reply) : Option Fleet :=
  run (fleetStep .trivial (fun _ => "") fun _ => .sample) ⟨0, onePipeline.2, []⟩ <|
    [(1, .user (.enqueueRun {
      userId := "user", pipelineId := "pipeline", snapshotJson := "", routeAllowed := true,
      writerEnabled := true, newId := "run" })),
    (2, .claim (fun _ => true) "worker" 60 none ⟨"token", token_ne_empty⟩)] ++
      replies.map fun reply => (3, .work 0 reply)

/-- The worker has made some calls, and nothing has disturbed it. -/
def undisturbed (calls : Nat) : Option Fleet :=
  sampleFleet (List.replicate calls { answer := sampleAnswer })

/-- The same, of a source with two batches. -/
def undisturbedPermuted (calls : Nat) : Option Fleet :=
  sampleFleet (List.replicate calls { answer := permutedAnswer })

theorem sampleFleet_reachable {replies : List Reply} {s : Fleet}
    (h : sampleFleet replies = some s) :
    (fleet .trivial (fun _ => "") fun _ => .sample).Reachable s :=
  (System.Reachable.init (S := fleet .trivial (fun _ => "") fun _ => .sample) ⟨rfl, rfl⟩).steps
    (steps_of_run h)

end DataMover
