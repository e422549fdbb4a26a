import DataMover.Engine.Attachment

/-!
# The invariant of the fleet

Every worker follows its protocol, and every worker that has begun destination work is attached to its
row; no two workers have begun it for one run.
-/

namespace DataMover

open PipelineRunStatus Transition
open Program (Sat)

/-! ## One worker -/

/-- What is known of a worker without its row. -/
structure Worker.Ok (w : Worker) : Prop where
  lawful : ∀ j ∈ w.job, j.lib.Lawful
  sat : Sat (workerProtocol w.job) (fun _ _ => True) w.progress w.program
  ordered : w.progress.Ordered
  finalized_of_committed : w.committed = true → w.progress.finalized ≠ .pending
  clean : w.progress.rolledBack = some true → w.committed = false

theorem Worker.start_ok {env : WorkerEnv} (lawful : env.lib.Lawful) (run : PipelineRun)
    (token : Token) : (Worker.start env run token).Ok := by
  refine ⟨?_, processOne_sat lawful, ⟨fun _ => rfl, nofun, fun h => absurd rfl h, Nat.zero_le 1,
    fun h => absurd rfl h⟩, nofun, nofun⟩
  intro j hj
  obtain ⟨snapshot, -, rfl⟩ := Option.map_eq_some_iff.1 hj
  exact lawful

section Outcome

variable {p : Progress} {c : Call}

/-- Only `finalize` and `abort` show what became of the destination. -/
theorem observe_outcome (r : Except Exn c.Answer) (notFinalize : ∀ s, c ≠ .finalize s)
    (notAbort : ∀ s, c ≠ .abort s) :
    (p.observe c r).finalized = p.finalized ∧ (p.observe c r).rolledBack = p.rolledBack := by
  cases c with
  | finalize session => exact absurd rfl (notFinalize session)
  | abort session => exact absurd rfl (notAbort session)
  | service call =>
    cases call with
    | transition status message => cases status <;> cases r <;> exact ⟨rfl, rfl⟩
    | requestComputeStart | deferRunForDatabricksCompute | blockComputeReadiness | heartbeat
    | renewLease | addCounters | recordGuardrailReview | blockRun | completeRun | failRun
    | cancelClaimedRun => cases r <;> exact ⟨rfl, rfl⟩
  | prepareDestination | deferRunForDatabricksCompute | appendEvent | getRun | getUser | rollback
  | credentials | refreshPublishedDestinationCache | clock | leaseLost | cancelRequested
  | testSource | inspectSource | extract | closeSource | testDestination | countDestinationRows
  | inspectDestination | writeBatch => cases r <;> exact ⟨rfl, rfl⟩

theorem commitsNow_eq_false (reply : Reply) (r : Except Exn c.Answer)
    (notFinalize : ∀ s, c ≠ .finalize s) : Worker.commitsNow reply c r = false := by
  cases c with
  | finalize session => exact absurd rfl (notFinalize session)
  | service | prepareDestination | deferRunForDatabricksCompute | appendEvent | getRun | getUser
  | rollback | credentials | refreshPublishedDestinationCache | clock | leaseLost | cancelRequested
  | testSource | inspectSource | extract | closeSource | testDestination | countDestinationRows
  | inspectDestination | writeBatch | abort => cases r <;> rfl

end Outcome

section Next

variable {w : Worker} {reply : Reply} {c : Call} {k : Except Exn c.Answer → Transfer Unit}
  {r : Except Exn c.Answer}

theorem Worker.Ok.allowed (ok : w.Ok) (hp : w.program = .request c k) :
    Orderly w.job w.progress c := by
  have sat := ok.sat
  rw [hp] at sat
  exact sat.1

/-- An orderly call, answered within the contract, keeps the worker in order. -/
theorem Worker.Ok.next (ok : w.Ok) (hp : w.program = .request c k)
    (kept : w.breaksContract c r = false) : (w.next reply c k r).Ok := by
  have orderly := ok.allowed hp
  have sat := ok.sat
  rw [hp] at sat
  refine ⟨ok.lawful, sat.2 r, ok.ordered.observe orderly r, ?_, ?_⟩
  · intro committed
    by_cases fin : ∃ session, c = .finalize session
    · obtain ⟨session, rfl⟩ := fin
      cases r <;> exact nofun
    · have notFinalize (s) : c ≠ .finalize s := fun h => fin ⟨s, h⟩
      have before : w.committed = true := by
        simpa [Worker.next, commitsNow_eq_false reply r notFinalize] using committed
      have finalized := ok.finalized_of_committed before
      by_cases ab : ∃ session, c = .abort session
      · obtain ⟨session, rfl⟩ := ab
        cases r <;> exact finalized
      · rw [Worker.next, (observe_outcome r notFinalize fun s h => ab ⟨s, h⟩).1]
        exact finalized
  · intro rolledBack
    by_cases ab : ∃ session, c = .abort session
    · obtain ⟨session, rfl⟩ := ab
      cases r with
      | error e => cases rolledBack
      | ok result =>
        obtain rfl : result = .rolledBack := by simpa [Worker.next, Progress.observe] using rolledBack
        exact kept
    · by_cases fin : ∃ session, c = .finalize session
      · obtain ⟨session, rfl⟩ := fin
        have unaborted : w.progress.rolledBack = none := orderly.2.2.2.2.1
        cases r <;> exact absurd (unaborted.symm.trans rolledBack) nofun
      · have notFinalize (s) : c ≠ .finalize s := fun h => fin ⟨s, h⟩
        have before := (observe_outcome r notFinalize fun s h => ab ⟨s, h⟩).2.symm.trans rolledBack
        simpa [Worker.next, commitsNow_eq_false reply r notFinalize] using ok.clean before

end Next

/-! ## Rows after a call -/

section Rows

variable {R : Redaction} {iso : Time → String} {now : Time} {db : Database} {row row' : PipelineRun}
  {call : ServiceCall} {id : String}

theorem getRun_putRun (h : db.getRun id = some row) (same : row'.id = row.id) :
    (db.putRun row').getRun id = some row' := by
  obtain ⟨mem, rfl⟩ := Database.mem_of_getRun h
  rw [← same]
  exact Database.getRun_of_mem (Database.mem_putRun.2 (.inr ⟨rfl, row, mem, same.symm⟩))

theorem getRun_perform (R : Redaction) (iso : Time → String) (now : Time) (call : ServiceCall)
    (h : db.getRun id = some row) : ∃ row', (db.perform R iso now call).getRun id = some row' ∧
      (row' = row ∨ RowStep R iso now row call row') := by
  obtain ⟨mem, rfl⟩ := Database.mem_of_getRun h
  have step : (runSystem R iso).Step (now, db) (now, call) (now, db.perform R iso now call) :=
    runSystem_step_iff.2 ⟨le_rfl, rfl⟩
  obtain ⟨row', mem', same, moved⟩ := row_of_step step mem
  exact ⟨row', same ▸ Database.getRun_of_mem mem', moved⟩

theorem mem_perform (h : row' ∈ (db.perform R iso now call).runs) :
    (∃ row ∈ db.runs, row'.id = row.id ∧ (row' = row ∨ RowStep R iso now row call row')) ∨
      ∃ a, call = .enqueueRun a ∧ row' = db.newRun R now a := by
  rcases (perform_cases now db call : db.perform R iso now call = db ∨ _) with
    same | ⟨a, rfl, -, -, _, inserted⟩ | ⟨row, mem, row₁, step, put⟩
  · exact .inl ⟨row', same ▸ h, rfl, .inl rfl⟩
  · rw [inserted] at h
    rcases List.mem_append.1 h with h | h
    · exact .inl ⟨row', h, rfl, .inl rfl⟩
    · exact .inr ⟨a, rfl, List.mem_singleton.1 h⟩
  · rw [put, Database.mem_putRun] at h
    rcases h with ⟨h, -⟩ | ⟨rfl, -⟩
    · exact .inl ⟨row', h, rfl, .inl rfl⟩
    · exact .inl ⟨row, mem, step.id_eq, .inr step⟩

/-- A worker call writes the row that it computes, or nothing. -/
theorem getRun_perform_worker {token : Token} {c : WorkerCall} (h : db.getRun id = some row) :
    (db.perform R iso now (.worker id token c)).getRun id =
      match c.effect R now token row with
      | .ok row' => some row'
      | .error _ => some row := by
  simp only [Database.perform, Database.step, h]
  cases effect : c.effect R now token row with
  | ok row' =>
    have same : row'.id = row.id := congrArg Prod.fst (effect_identity effect)
    exact getRun_putRun h same
  | error e => exact h

end Rows

/-! ## A worker and the database -/

/-- The worker's run exists, and the worker is attached to it once it has begun destination work. -/
def Tracks (db : Database) (w : Worker) : Prop :=
  ∃ row, db.getRun w.runId = some row ∧
    (w.progress.loading = true → Attached row w.token w.progress w.committed)

section Tracks

variable {R : Redaction} {iso : Time → String} {now : Time} {db : Database} {w : Worker}

theorem Tracks.foreign {call : ServiceCall} (h : Tracks db w)
    (consistent : ∀ run ∈ db.runs, run.lifecycle.Consistent) (foreign : call.Foreign w.token) :
    Tracks (db.perform R iso now call) w := by
  obtain ⟨row, found, attached⟩ := h
  obtain ⟨row', found', moved⟩ := getRun_perform R iso now call found
  refine ⟨row', found', fun loading => ?_⟩
  rcases moved with rfl | step
  · exact attached loading
  · exact (attached loading).foreign step (consistent row (Database.mem_of_getRun found).1) foreign

/-- What becomes of a worker call: it is refused or lost before its effect, or it has its effect,
whether the worker learns of it or not. -/
inductive Served (R : Redaction) (now : Time) (token : Token) (row : PipelineRun)
    (call : WorkerCall) : PipelineRun → Except Exn PipelineRun → Prop
  | none (e : Exn) : Served R now token row call row (.error e)
  | done {row' : PipelineRun} (h : call.effect R now token row = .ok row') :
      Served R now token row call row' (.ok row')
  | lost {row' : PipelineRun} (h : call.effect R now token row = .ok row') (e : Exn) :
      Served R now token row call row' (.error e)

theorem served (R : Redaction) (iso : Time → String) (now : Time) {row : PipelineRun}
    (call : WorkerCall) (reply : Reply) (found : db.getRun w.runId = some row) :
    ∃ row', (w.written R iso now db reply (.service call)).getRun w.runId = some row' ∧
      Served R now w.token row call row' (w.outcome R now db reply (.service call)) := by
  have performed : (db.perform R iso now (.worker w.runId w.token call)).getRun w.runId = _ :=
    getRun_perform_worker found
  simp only [Worker.written, Worker.serviceCall?, Worker.outcome, Worker.answer, found]
  cases interrupted : reply.interrupted with
  | some e =>
    cases applied : reply.applied with
    | false => exact ⟨row, found, .none e⟩
    | true =>
      cases effect : call.effect R now w.token row with
      | ok row' => exact ⟨row', by rw [effect] at performed; exact performed, .lost effect e⟩
      | error e' => exact ⟨row, by rw [effect] at performed; exact performed, .none e⟩
  | none =>
    cases effect : call.effect R now w.token row with
    | ok row' => exact ⟨row', by rw [effect] at performed; exact performed, .done effect⟩
    | error e => exact ⟨row, by rw [effect] at performed; exact performed, .none e⟩

/-- A worker begins destination work with the transition to `loading`. -/
theorem observe_loading {p : Progress} {call : WorkerCall} {r : Except Exn PipelineRun}
    (h : (p.observe (.service call) r).loading = true) :
    p.loading = true ∨ ∃ message row, call = .transition .loading message ∧ r = .ok row := by
  cases call with
  | transition status message =>
    cases r with
    | error e => cases status <;> exact .inl h
    | ok row =>
      cases status with
      | loading => exact .inr ⟨message, row, rfl, rfl⟩
      | queued | validating | extracting | verifying | blocked | succeeded | failed | cancelled
      | failedNeedsReconciliation => exact .inl h
  | requestComputeStart | deferRunForDatabricksCompute | blockComputeReadiness | heartbeat
  | renewLease | addCounters | recordGuardrailReview | blockRun | completeRun | failRun
  | cancelClaimedRun => cases r <;> exact .inl h

theorem Tracks.service {call : WorkerCall} (h : Tracks db w) (ok : w.Ok) (reply : Reply)
    (early : ∀ run ∈ db.runs, run.Early → run.rows = (0, 0))
    {k : Except Exn PipelineRun → Transfer Unit} (hp : w.program = .request (.service call) k) :
    Tracks (w.written R iso now db reply (.service call))
      (w.next reply (.service call) k (w.outcome R now db reply (.service call))) := by
  obtain ⟨row, found, attached⟩ := h
  obtain ⟨row', found', served⟩ := served R iso now call reply found
  have orderly : OrderlyService w.job w.progress call := ok.allowed hp
  generalize w.outcome R now db reply (.service call) = r at served ⊢
  refine ⟨row', found', fun loading => ?_⟩
  have same : Worker.commitsNow reply (.service call) r = false := commitsNow_eq_false reply r nofun
  simp only [Worker.next, same, Bool.false_or]
  rcases observe_loading loading with before | ⟨message, row₁, rfl, rfl⟩
  · have attached := attached before
    cases served with
    | none e => exact attached.refused e
    | done effect => exact attached.service before ok.clean orderly effect _
    | lost effect e => exact attached.service before ok.clean orderly effect _
  · cases served with
    | done effect =>
      have off : w.progress.loading = false := by
        rcases orderly.2.2 with h | ⟨-, off⟩ | ⟨h, -⟩
        · cases h
        · exact off
        · cases h
      exact Attached.start (early row (Database.mem_of_getRun found).1) ok.ordered off effect

theorem Tracks.deferred {poll : Int} (h : Tracks db w) (ok : w.Ok) (reply : Reply)
    (consistent : ∀ run ∈ db.runs, run.lifecycle.Consistent) {k : Except Exn Bool → Transfer Unit}
    (hp : w.program = .request (.deferRunForDatabricksCompute poll) k) :
    Tracks (w.written R iso now db reply (.deferRunForDatabricksCompute poll))
      (w.next reply (.deferRunForDatabricksCompute poll) k
        (w.outcome R now db reply (.deferRunForDatabricksCompute poll))) := by
  obtain ⟨row, found, attached⟩ := h
  have consistent := consistent row (Database.mem_of_getRun found).1
  have clean : w.progress.finalized ≠ .pending → w.committed = false := by
    intro hf
    rcases (ok.allowed hp : w.progress.Clean) with pending | ⟨-, rolledBack⟩
    · exact absurd pending hf
    · exact ok.clean rolledBack
  have after : ∃ row', (w.written R iso now db reply
      (.deferRunForDatabricksCompute poll)).getRun w.runId = some row' ∧
      (w.progress.loading = true →
        Attached row' w.token { w.progress with ending := true } w.committed) := by
    have performed : (db.perform R iso now (.worker w.runId w.token
        (.deferRunForDatabricksCompute reply.attempts poll))).getRun w.runId = _ :=
      getRun_perform_worker found
    simp only [Worker.written, Worker.serviceCall?]
    split_ifs
    · exact ⟨row, found, fun loading => (attached loading).ending⟩
    · cases effect : (WorkerCall.deferRunForDatabricksCompute reply.attempts poll).effect R now
          w.token row with
      | ok row' =>
        rw [effect] at performed
        exact ⟨row', performed, fun loading => (attached loading).deferred consistent clean effect⟩
      | error e =>
        rw [effect] at performed
        exact ⟨row, performed, fun loading => (attached loading).ending⟩
  obtain ⟨row', found', attached'⟩ := after
  refine ⟨row', found', ?_⟩
  generalize w.outcome R now db reply _ = r
  cases r <;> exact attached'

/-- The next call of a worker keeps it attached to its row. -/
theorem Tracks.work {c : Call} {k : Except Exn c.Answer → Transfer Unit} (h : Tracks db w)
    (ok : w.Ok) (reply : Reply) (consistent : ∀ run ∈ db.runs, run.lifecycle.Consistent)
    (early : ∀ run ∈ db.runs, run.Early → run.rows = (0, 0)) (hp : w.program = .request c k) :
    Tracks (w.written R iso now db reply c)
      (w.next reply c k (w.outcome R now db reply c)) := by
  have orderly := ok.allowed hp
  cases c with
  | service call => exact h.service ok reply early hp
  | deferRunForDatabricksCompute poll => exact h.deferred ok reply consistent hp
  | appendEvent message stage =>
    have after : Tracks (w.written R iso now db reply (.appendEvent message stage)) w := by
      simp only [Worker.written, Worker.serviceCall?]
      split_ifs
      · exact h
      · exact h.foreign consistent trivial
    obtain ⟨row, found, attached⟩ := after
    refine ⟨row, found, ?_⟩
    generalize w.outcome R now db reply _ = r
    cases r <;> exact fun loading => (attached loading).of_outline rfl
  | finalize session =>
    obtain ⟨row, found, attached⟩ := h
    refine ⟨row, found, ?_⟩
    generalize w.outcome R now db reply _ = r
    cases r with
    | ok manifest => exact fun loading => (attached loading).finalize orderly (.ok manifest)
    | error e => exact fun loading => (attached loading).finalize orderly (.error e)
  | prepareDestination | getRun | getUser | rollback
  | credentials | refreshPublishedDestinationCache | clock | leaseLost | cancelRequested
  | testSource | inspectSource | extract | closeSource | testDestination | countDestinationRows
  | inspectDestination | writeBatch | abort =>
    obtain ⟨row, found, attached⟩ := h
    refine ⟨row, found, ?_⟩
    generalize w.outcome R now db reply _ = r
    cases r <;> exact fun loading => (attached loading).of_outline rfl

end Tracks

/-! ## All workers -/

/-- The invariant of the fleet. -/
structure Fleet.Invariant (s : Fleet) : Prop where
  tokens : (s.workers.map Worker.token).Nodup
  ok : ∀ w ∈ s.workers, w.Ok
  tracks : ∀ w ∈ s.workers, Tracks s.db w
  early : ∀ run ∈ s.db.runs, run.Early → run.rows = (0, 0)
  succeeded : ∀ run ∈ s.db.runs, run.status = .succeeded →
    ∃ w ∈ s.workers, w.runId = run.id ∧ w.progress.finalized = .returned
  single : ∀ (i j : Nat) (w w' : Worker), s.workers[i]? = some w → s.workers[j]? = some w' → w.runId = w'.runId →
    w.progress.loading = true → w'.progress.loading = true → i = j

section Rows

variable {R : Redaction} {iso : Time → String} {now : Time} {db : Database} {call : ServiceCall}

/-- The counters of early rows stay zero, when only late rows are counted. -/
theorem early_perform (consistent : ∀ run ∈ db.runs, run.lifecycle.Consistent)
    (early : ∀ run ∈ db.runs, run.Early → run.rows = (0, 0))
    (late : ∀ run ∈ db.runs, ∀ t c, call = .worker run.id t (.addCounters c) → ¬ run.Early) :
    ∀ run ∈ (db.perform R iso now call).runs, run.Early → run.rows = (0, 0) := by
  intro row' mem' isEarly
  rcases mem_perform mem' with ⟨row, mem, -, rfl | step⟩ | ⟨a, -, rfl⟩
  · exact early row' mem isEarly
  · have before : row.Early := not_not.1 fun hl => step.late (consistent row mem) hl isEarly
    rw [step.rows fun t c hc => late row mem t c hc before]
    exact early row mem before
  · rfl

/-- A run that succeeds has been completed by a worker. -/
theorem succeeded_perform {row' : PipelineRun} (mem' : row' ∈ (db.perform R iso now call).runs)
    (success : row'.status = .succeeded) :
    (∃ row ∈ db.runs, row.id = row'.id ∧ row.status = .succeeded) ∨
      ∃ t c, call = .worker row'.id t c ∧
        ((∃ a, c = .completeRun a) ∨ ∃ message, c = .transition .succeeded message) := by
  rcases mem_perform mem' with ⟨row, mem, same, rfl | step⟩ | ⟨a, -, rfl⟩
  · exact .inl ⟨row', mem, rfl, success⟩
  · rcases step.succeeded success with before | called
    · exact .inl ⟨row, mem, same.symm, before⟩
    · exact .inr (same ▸ called)
  · cases success

end Rows

section Claims

variable {R : Redaction} {now : Time} {db db' : Database} {run run' : PipelineRun}

theorem lease_token {stage : Stage} {workerId : String} {leaseSeconds : Int} {newToken token : Token}
    (h : run.lease R now stage workerId leaseSeconds newToken = .ok (run', some token)) :
    token = newToken := by
  unfold PipelineRun.lease at h
  split_ifs at h
  · cases h
  · obtain ⟨r, -, h⟩ := bind_eq_ok.1 h
    cases h
    rfl

theorem claim_token {workerId : String} {leaseSeconds : Int} {newToken token : Token}
    (h : run.claim R now workerId leaseSeconds newToken = .ok (run', some token)) :
    token = newToken := by
  unfold PipelineRun.claim at h
  split_ifs at h
  · cases h
  · exact lease_token h
  · exact lease_token h

/-- A claim that returns a run has written it, with the new token. -/
theorem claimRun_some (iso : Time → String) {active : String → Bool} {workerId : String} {leaseSeconds : Int}
    {runId : Option String} {newToken token : Token}
    (h : db.claimRun R now active workerId leaseSeconds runId newToken =
      .ok (db', some (run', token))) :
    token = newToken ∧
      (db.perform R iso now (.claimRun active workerId leaseSeconds runId newToken)).getRun run'.id =
        some run' := by
  have performed : db.perform R iso now (.claimRun active workerId leaseSeconds runId newToken) =
      db' := by
    simp only [Database.perform, Database.step, h]
    rfl
  rw [performed]
  unfold Database.claimRun at h
  split at h
  · cases h
  · rename_i run selected
    obtain ⟨⟨claimed, leased⟩, hc, h⟩ := bind_eq_ok.1 h
    have mem : run ∈ db.runs := (List.mem_filter.1 (List.argmin_mem selected)).1
    have same : claimed.id = run.id := congrArg (fun f => f.1.1) (claim_frame hc)
    cases leased with
    | none => cases h
    | some t =>
      cases h
      refine ⟨claim_token hc, ?_⟩
      rw [same]
      exact getRun_putRun (Database.getRun_of_mem mem) same

end Claims

section Invariant

variable {R : Redaction} {iso : Time → String} {now : Time} {env : String → WorkerEnv} {s : Fleet}

/-- Calls that no program of a worker made. -/
theorem Fleet.Invariant.foreign {call : ServiceCall} (inv : s.Invariant)
    (consistent : ∀ run ∈ s.db.runs, run.lifecycle.Consistent)
    (foreign : ∀ token, call.Foreign token) :
    Fleet.Invariant { s with now := now, db := s.db.perform R iso now call } := by
  have notProgram (runId t c) (hc : call = .worker runId t c) : c.beside = true := by
    rcases (hc ▸ foreign t : ServiceCall.Foreign t (.worker runId t c)) with other | beside
    · exact absurd rfl other
    · exact beside
  refine ⟨inv.tokens, inv.ok, fun w hw => (inv.tracks w hw).foreign consistent (foreign w.token), ?_,
    ?_, inv.single⟩
  · refine early_perform consistent inv.early fun run mem t c hc => ?_
    cases notProgram _ _ _ hc
  · intro run mem success
    rcases succeeded_perform mem success with ⟨row, mem, same, before⟩ | ⟨t, c, hc, ends⟩
    · obtain ⟨w, hw, hid, returned⟩ := inv.succeeded row mem before
      exact ⟨w, hw, hid.trans same, returned⟩
    · have beside := notProgram _ _ _ hc
      rcases ends with ⟨a, rfl⟩ | ⟨message, rfl⟩
      · cases beside
      · cases beside

/-- A claimed run gets a new worker. -/
theorem Fleet.Invariant.claim {active : String → Bool} {workerId : String} {leaseSeconds : Int}
    {runId : Option String} {newToken : Token} (lawful : ∀ id, (env id).lib.Lawful)
    (inv : s.Invariant) (consistent : ∀ run ∈ s.db.runs, run.lifecycle.Consistent)
    (fresh : newToken ∉ s.workers.map Worker.token) :
    (s.claim R iso env now active workerId leaseSeconds runId newToken).Invariant := by
  have after : Fleet.Invariant { s with
      now := now
      db := s.db.perform R iso now (.claimRun active workerId leaseSeconds runId newToken) } :=
    inv.foreign consistent fun _ => trivial
  unfold Fleet.claim
  split
  · rename_i db run token claimed
    obtain ⟨rfl, found⟩ := claimRun_some iso claimed
    have idle : (Worker.start (env workerId) run token).progress.loading = false := rfl
    refine ⟨?_, ?_, ?_, after.early, ?_, ?_⟩
    · rw [List.map_append, List.nodup_append]
      refine ⟨inv.tokens, List.nodup_singleton _, ?_⟩
      rintro t ht t' ht' rfl
      rw [List.map_singleton, List.mem_singleton] at ht'
      exact fresh ((show t = token from ht') ▸ ht)
    · intro w hw
      rcases List.mem_append.1 hw with hw | hw
      · exact inv.ok w hw
      · rw [List.mem_singleton.1 hw]
        exact Worker.start_ok (lawful workerId) run token
    · intro w hw
      rcases List.mem_append.1 hw with hw | hw
      · exact after.tracks w hw
      · rw [List.mem_singleton.1 hw]
        exact ⟨run, found, nofun⟩
    · intro row mem success
      obtain ⟨w, hw, hid, returned⟩ := after.succeeded row mem success
      exact ⟨w, List.mem_append_left _ hw, hid, returned⟩
    · -- the new worker has not begun destination work
      intro i j w w' hi hj same loading loading'
      have old {i : Nat} {w : Worker}
          (h : (s.workers ++ [Worker.start (env workerId) run token])[i]? = some w)
          (loading : w.progress.loading = true) : s.workers[i]? = some w := by
        rcases Nat.lt_or_ge i s.workers.length with lt | ge
        · rwa [List.getElem?_append_left lt] at h
        · rw [List.getElem?_append_right ge] at h
          have new := List.mem_singleton.1 (List.mem_of_getElem? h)
          rw [new, idle] at loading
          cases loading
      exact inv.single i j w w' (old hi loading) (old hj loading') same loading loading'
  · exact after

/-- The workers after one of them has made a call. -/
theorem mem_set_worker {i : Nat} {w w' v : Worker} (inv : s.Invariant)
    (hw : s.workers[i]? = some w) (hv : v ∈ s.workers.set i w') :
    v = w' ∨ v ∈ s.workers ∧ v.token ≠ w.token := by
  obtain ⟨j, hj⟩ := List.mem_iff_getElem?.1 hv
  by_cases same : i = j
  · subst same
    have lt : i < s.workers.length := (List.getElem?_eq_some_iff.1 hw).1
    rw [List.getElem?_set_self lt] at hj
    exact .inl (Option.some.inj hj).symm
  · rw [List.getElem?_set_ne same] at hj
    refine .inr ⟨List.mem_of_getElem? hj, fun token => same ?_⟩
    have lt : i < (s.workers.map Worker.token).length := by
      rw [List.length_map]
      exact (List.getElem?_eq_some_iff.1 hw).1
    refine (List.getElem?_inj lt inv.tokens).1 ?_
    rw [List.getElem?_map, List.getElem?_map, hw, hj]
    exact congrArg some token.symm

section Calls

variable {w : Worker} {reply : Reply} {c : Call} {k : Except Exn c.Answer → Transfer Unit}
  {db : Database}

/-- A call of one worker is foreign to the others. -/
theorem serviceCall?_foreign {token : Token} (other : token ≠ w.token) {call : ServiceCall}
    (h : w.serviceCall? reply c = some call) : call.Foreign token := by
  cases c with
  | service c =>
    cases h
    exact .inl (Ne.symm other)
  | deferRunForDatabricksCompute poll =>
    cases h
    exact .inl (Ne.symm other)
  | appendEvent message stage =>
    cases h
    trivial
  | prepareDestination | finalize | abort | getRun | getUser | rollback | credentials
  | refreshPublishedDestinationCache | clock | leaseLost | cancelRequested | testSource
  | inspectSource | extract | closeSource | testDestination | countDestinationRows
  | inspectDestination | writeBatch => cases h

/-- A worker call of a program is one of the calls it makes, or a deferral. -/
theorem serviceCall?_worker {runId : String} {t : Token} {call : WorkerCall}
    (h : w.serviceCall? reply c = some (.worker runId t call)) :
    runId = w.runId ∧ (c = .service call ∨
      ∃ attempts poll, call = .deferRunForDatabricksCompute attempts poll) := by
  cases c with
  | service c =>
    cases h
    exact ⟨rfl, .inl rfl⟩
  | deferRunForDatabricksCompute poll =>
    cases h
    exact ⟨rfl, .inr ⟨_, _, rfl⟩⟩
  | appendEvent message stage => cases h
  | prepareDestination | finalize | abort | getRun | getUser | rollback | credentials
  | refreshPublishedDestinationCache | clock | leaseLost | cancelRequested | testSource
  | inspectSource | extract | closeSource | testDestination | countDestinationRows
  | inspectDestination | writeBatch => cases h

theorem written_cases (R : Redaction) (iso : Time → String) (now : Time) (db : Database) :
    w.written R iso now db reply c = db ∨ ∃ call, w.serviceCall? reply c = some call ∧
      w.written R iso now db reply c = db.perform R iso now call := by
  unfold Worker.written
  cases hc : w.serviceCall? reply c with
  | none => exact .inl rfl
  | some call =>
    by_cases skipped : (reply.interrupted.isSome && !reply.applied) = true
    · exact .inl (if_pos skipped)
    · exact .inr ⟨call, rfl, if_neg skipped⟩

/-- A worker begins destination work on a row that is still early. -/
theorem loading_of_next {row : PipelineRun} (found : db.getRun w.runId = some row)
    (loading : (w.next reply c k (w.outcome R now db reply c)).progress.loading = true) :
    w.progress.loading = true ∨ row.Early := by
  cases c with
  | service call =>
    obtain ⟨row', -, served⟩ := served R (fun _ => "") now call reply found
    rcases observe_loading loading with before | ⟨message, row₁, rfl, hr⟩
    · exact .inl before
    · rw [hr] at served
      cases served with
      | done effect =>
        obtain ⟨-, effect⟩ := PipelineRun.guarded_ok_iff.1 effect
        obtain ⟨next, hn, -⟩ := bind_eq_ok.1 effect
        obtain ⟨allowed, -⟩ := (PipelineRun.applyTransition_ok_iff ..).1 hn
        refine .inr ?_
        unfold PipelineRun.Early
        revert allowed
        cases row.status <;> decide
  | deferRunForDatabricksCompute | appendEvent | prepareDestination | finalize | abort | getRun
  | getUser | rollback | credentials | refreshPublishedDestinationCache | clock | leaseLost
  | cancelRequested | testSource | inspectSource | extract | closeSource | testDestination
  | countDestinationRows | inspectDestination | writeBatch =>
    left
    revert loading
    generalize w.outcome R now db reply _ = r
    cases r <;> exact id

/-- `finalize` returns at most once. -/
theorem returned_of_next (ok : w.Ok) (hp : w.program = .request c k) (r : Except Exn c.Answer)
    (returned : w.progress.finalized = .returned) :
    (w.next reply c k r).progress.finalized = .returned := by
  have orderly := ok.allowed hp
  cases c with
  | finalize session => exact absurd (returned.symm.trans orderly.2.2.1) nofun
  | abort session => cases r <;> exact returned
  | service call => exact (observe_outcome r nofun nofun).1.trans returned
  | deferRunForDatabricksCompute | appendEvent | prepareDestination | getRun
  | getUser | rollback | credentials | refreshPublishedDestinationCache | clock | leaseLost
  | cancelRequested | testSource | inspectSource | extract | closeSource | testDestination
  | countDestinationRows | inspectDestination | writeBatch =>
    exact (observe_outcome r nofun nofun).1.trans returned

end Calls

/-- The next call of a worker keeps the invariant. -/
theorem Fleet.Invariant.work {i : Nat} {w : Worker} (reply : Reply) {c : Call}
    {k : Except Exn c.Answer → Transfer Unit} (inv : s.Invariant)
    (consistent : ∀ run ∈ s.db.runs, run.lifecycle.Consistent) (hw : s.workers[i]? = some w)
    (hp : w.program = .request c k)
    (kept : w.breaksContract c (w.outcome R now s.db reply c) = false) :
    Fleet.Invariant {
      now
      db := w.written R iso now s.db reply c
      workers := s.workers.set i (w.next reply c k (w.outcome R now s.db reply c)) } := by
  have mem : w ∈ s.workers := List.mem_of_getElem? hw
  have lt : i < s.workers.length := (List.getElem?_eq_some_iff.1 hw).1
  have ok := inv.ok w mem
  have orderly := ok.allowed hp
  obtain ⟨row, found, attached⟩ := inv.tracks w mem
  refine ⟨?_, ?_, ?_, ?_, ?_, ?_⟩
  · have same : (s.workers.set i (w.next reply c k (w.outcome R now s.db reply c))).map Worker.token =
        s.workers.map Worker.token := by
      refine List.ext_getElem? fun j => ?_
      rw [List.getElem?_map, List.getElem?_map, List.getElem?_set]
      split_ifs with hj
      · subst hj
        rw [hw]
        rfl
      · rfl
    rw [same]
    exact inv.tokens
  · intro v hv
    rcases mem_set_worker inv hw hv with rfl | ⟨hv, -⟩
    · exact ok.next hp kept
    · exact inv.ok v hv
  · intro v hv
    rcases mem_set_worker inv hw hv with rfl | ⟨hv, other⟩
    · exact (inv.tracks w mem).work ok reply consistent inv.early hp
    · rcases written_cases R iso now s.db with same | ⟨call, hc, written⟩
      · rw [same]
        exact inv.tracks v hv
      · rw [written]
        exact (inv.tracks v hv).foreign consistent (serviceCall?_foreign other hc)
  · rcases written_cases R iso now s.db with same | ⟨call, hc, written⟩
    · rw [same]
      exact inv.early
    · rw [written]
      refine early_perform consistent inv.early ?_
      rintro run hr t counters rfl
      obtain ⟨hid, rfl | ⟨_, _, h⟩⟩ := serviceCall?_worker hc
      · obtain rfl : run = row := by
          have := Database.getRun_of_mem hr
          rw [hid, found] at this
          exact (Option.some.inj this).symm
        exact (attached orderly.1).late
      · cases h
  · intro run hr success
    have lift (v : Worker) (hv : v ∈ s.workers) (returned : v.progress.finalized = .returned) :
        ∃ v' ∈ s.workers.set i (w.next reply c k (w.outcome R now s.db reply c)),
          v'.runId = v.runId ∧ v'.progress.finalized = .returned := by
      obtain ⟨j, hj⟩ := List.mem_iff_getElem?.1 hv
      by_cases same : i = j
      · subst same
        obtain rfl : w = v := Option.some.inj (hw.symm.trans hj)
        exact ⟨_, List.mem_of_getElem? (List.getElem?_set_self lt), rfl,
          returned_of_next ok hp _ returned⟩
      · exact ⟨v, List.mem_of_getElem? ((List.getElem?_set_ne same).trans hj), rfl, returned⟩
    have before (row : PipelineRun) (hrow : row ∈ s.db.runs) (same : row.id = run.id)
        (success : row.status = .succeeded) :
        ∃ v ∈ s.workers.set i (w.next reply c k (w.outcome R now s.db reply c)),
          v.runId = run.id ∧ v.progress.finalized = .returned := by
      obtain ⟨v, hv, hid, returned⟩ := inv.succeeded row hrow success
      obtain ⟨v', hv', hid', returned'⟩ := lift v hv returned
      exact ⟨v', hv', hid'.trans (hid.trans same), returned'⟩
    rcases written_cases R iso now s.db with same | ⟨call, hc, written⟩
    · exact before run (same ▸ hr) rfl success
    · rcases succeeded_perform (written ▸ hr) success with ⟨row, hrow, same, h⟩ | ⟨t, c', rfl, ends⟩
      · exact before row hrow same h
      · obtain ⟨hid, rfl | ⟨_, _, rfl⟩⟩ := serviceCall?_worker hc
        · rcases ends with ⟨a, rfl⟩ | ⟨message, rfl⟩
          · obtain ⟨v', hv', hid', returned'⟩ := lift w mem orderly.1
            exact ⟨v', hv', hid'.trans hid.symm, returned'⟩
          · rcases orderly.2.2 with h | ⟨h, -⟩ | ⟨h, -⟩ <;> cases h
        · rcases ends with ⟨a, h⟩ | ⟨message, h⟩ <;> cases h
  · -- no other worker has begun destination work on a row that is still early
    have fresh {j : Nat} {v : Worker} (hj : s.workers[j]? = some v) (other : i ≠ j)
        (sameRun : w.runId = v.runId) (loading : v.progress.loading = true)
        (starts : (w.next reply c k (w.outcome R now s.db reply c)).progress.loading = true) :
        False := by
      rcases loading_of_next found starts with before | early
      · exact other (inv.single i j w v hw hj sameRun before loading)
      · obtain ⟨row', found', attached'⟩ := inv.tracks v (List.mem_of_getElem? hj)
        rw [← sameRun, found] at found'
        cases found'
        exact (attached' loading).late early
    intro j l v v' hj hl same loading loading'
    rw [List.getElem?_set] at hj hl
    by_cases hij : i = j
    · by_cases hil : i = l
      · exact hij.symm.trans hil
      · rw [if_pos hij, if_pos lt] at hj
        rw [if_neg hil] at hl
        cases hj
        exact (fresh hl hil same loading' loading).elim
    · by_cases hil : i = l
      · rw [if_neg hij] at hj
        rw [if_pos hil, if_pos lt] at hl
        cases hl
        exact (fresh hj hij same.symm loading loading').elim
      · rw [if_neg hij] at hj
        rw [if_neg hil] at hl
        exact inv.single j l v v' hj hl same loading loading'

/-- The invariant holds in every state that the fleet reaches. -/
theorem fleet_invariant (lawful : ∀ id, (env id).lib.Lawful)
    (h : (fleet R iso env).Reachable s) : s.Invariant := by
  refine h.invariant (I := Fleet.Invariant) ?_ ?_
  · rintro s ⟨noRuns, noWorkers⟩
    refine ⟨?_, ?_, ?_, ?_, ?_, ?_⟩
    · rw [noWorkers]
      exact List.nodup_nil
    · rw [noWorkers]
      exact fun w hw => absurd hw List.not_mem_nil
    · rw [noWorkers]
      exact fun w hw => absurd hw List.not_mem_nil
    · rw [noRuns]
      exact fun run hr => absurd hr List.not_mem_nil
    · rw [noRuns]
      exact fun run hr => absurd hr List.not_mem_nil
    · intro i j w w' hi
      rw [noWorkers] at hi
      cases hi
  · intro s i s' reachable inv step
    have consistent := fleet_consistent reachable
    cases (fleet_step_cases step).2 with
    | foreign call foreign => exact inv.foreign consistent foreign
    | claim active workerId leaseSeconds runId fresh => exact inv.claim lawful consistent fresh
    | work reply hw hp kept => exact inv.work reply consistent hw hp kept

end Invariant

end DataMover
