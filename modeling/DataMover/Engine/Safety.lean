import DataMover.Engine.Tracking

/-!
# What the fleet guarantees

The recorded impact of a run never hides a commit, every run gets at most one destination session, and
what is finalized is the image of everything that was extracted.
-/

namespace DataMover

open PipelineRunStatus Transition

variable {R : Redaction} {iso : Time → String} {env : String → WorkerEnv} {s : Fleet}

/-! ## Data impact -/

/-- The row of a worker's run, with what is known of both. -/
theorem Fleet.Invariant.attached {w : Worker} {run : PipelineRun} (inv : s.Invariant)
    (hw : w ∈ s.workers) (hr : run ∈ s.db.runs) (same : w.runId = run.id)
    (loading : w.progress.loading = true) : Attached run w.token w.progress w.committed := by
  obtain ⟨row, found, attached⟩ := inv.tracks w hw
  rw [same, Database.getRun_of_mem hr] at found
  cases found
  exact attached loading

/-- What a run says once its destination has committed. -/
theorem Fleet.Invariant.committed {w : Worker} {run : PipelineRun} (inv : s.Invariant)
    (hw : w ∈ s.workers) (hr : run ∈ s.db.runs) (same : w.runId = run.id)
    (committed : w.committed = true) :
    run.status = .verifying ∨ run.UncertainEnd ∨ run.SuccessEnd := by
  have ok := inv.ok w hw
  have finalized := ok.finalized_of_committed committed
  have loading := ok.ordered.loading_of_verifying (ok.ordered.verifying_of_finalized finalized)
  have attached := inv.attached hw hr same loading
  rcases attached.finalized finalized with h | h | h | ⟨-, h⟩
  · exact .inl h
  · exact .inr (.inl h)
  · exact .inr (.inr h)
  · rw [committed] at h
    cases h

/-- The recorded data impact is sound, for every destination that keeps its contract. -/
theorem recorded_impact_sound (lawful : ∀ id, (env id).lib.Lawful)
    (h : (fleet R iso env).Reachable s) : ∀ run ∈ s.db.runs,
    (run.Terminal → run.dataImpact = some .unchanged ∨ run.dataImpact = some .rolledBack →
      ∀ w ∈ s.workers, w.runId = run.id → w.committed = false) ∧
    (run.status = .succeeded →
      ∃ w ∈ s.workers, w.runId = run.id ∧ w.progress.finalized = .returned) ∧
    ∀ w ∈ s.workers, w.runId = run.id → w.committed = true → run.Terminal →
      run.status ≠ .succeeded →
      run.status = .failedNeedsReconciliation ∧ run.dataImpact = some .uncertain ∧
        run.reconciliationRequired = true := by
  have inv := fleet_invariant lawful h
  intro run hr
  refine ⟨?_, inv.succeeded run hr, ?_⟩
  · intro ended impact w hw same
    refine Bool.eq_false_iff.2 fun committed => ?_
    rcases inv.committed hw hr same committed with verifying | uncertain | success
    · rw [PipelineRun.Terminal, verifying] at ended
      exact absurd ended (by decide)
    · rcases impact with impact | impact
      · exact absurd (impact.symm.trans uncertain.impact) (by decide)
      · exact absurd (impact.symm.trans uncertain.impact) (by decide)
    · rcases impact with impact | impact <;> rcases success.impact with other | other
      · exact absurd (impact.symm.trans other) (by decide)
      · exact absurd (impact.symm.trans other) (by decide)
      · exact absurd (impact.symm.trans other) (by decide)
      · exact absurd (impact.symm.trans other) (by decide)
  · intro w hw same committed ended failed
    rcases inv.committed hw hr same committed with verifying | uncertain | success
    · rw [PipelineRun.Terminal, verifying] at ended
      exact absurd ended (by decide)
    · exact ⟨uncertain.status, uncertain.impact, uncertain.required⟩
    · exact absurd success.status failed

/-- After `finalize`, the database does not answer `complete_run`. -/
def lostConfirmation : Option Fleet :=
  sampleFleet (List.replicate 42 { answer := sampleAnswer } ++
    [{ answer := sampleAnswer, interrupted := some (.other "OperationalError") }] ++
    List.replicate 4 { answer := fun
      | .abort _ => .ok .uncertain
      | c => sampleAnswer c })

theorem recorded_impact_sound_lostConfirmation : ∃ s, lostConfirmation = some s ∧
    ∃ run ∈ s.db.runs, ∃ w ∈ s.workers, w.committed = true ∧
      run.status = .failedNeedsReconciliation ∧ run.dataImpact = some .uncertain ∧
        run.reconciliationRequired = true := by
  obtain ⟨s, hs⟩ := Option.isSome_iff_exists.1 (by decide +kernel : lostConfirmation.isSome)
  have facts : ∀ t ∈ lostConfirmation, ∃ run ∈ t.db.runs, ∃ w ∈ t.workers, w.runId = run.id ∧
      w.committed = true ∧ run.Terminal ∧ run.status ≠ .succeeded := by
    decide +kernel
  obtain ⟨run, hr, w, hw, same, committed, ended, failed⟩ := facts s hs
  have sound := recorded_impact_sound (fun _ => Library.sample_lawful) (sampleFleet_reachable hs)
  exact ⟨s, hs, run, hr, w, hw, committed, (sound run hr).2.2 w hw same committed ended failed⟩

/-! ## Sessions -/

/-- How often `prepare_destination` has been called for a run. -/
def Fleet.prepareCalls (s : Fleet) (runId : String) : Nat :=
  ((s.workers.filter fun w => w.runId = runId).map fun w => w.progress.prepared.length).sum

/-- A sum over a list has at most one summand that is not zero, and that one is one. -/
theorem sum_le_one {α : Type} {f : α → Nat} {l : List α} (le : ∀ a ∈ l, f a ≤ 1)
    (single : l.Pairwise fun a b => f a = 0 ∨ f b = 0) : (l.map f).sum ≤ 1 := by
  induction l with
  | nil => exact Nat.zero_le 1
  | cons a l ih =>
    obtain ⟨first, rest⟩ := List.pairwise_cons.1 single
    have tail := ih (fun b hb => le b (List.mem_cons_of_mem a hb)) rest
    rw [List.map_cons, List.sum_cons]
    by_cases ha : f a = 0
    · omega
    · have zero : (l.map f).sum = 0 := by
        refine List.sum_eq_zero fun n hn => ?_
        obtain ⟨b, hb, rfl⟩ := List.mem_map.1 hn
        exact (first b hb).resolve_left ha
      have := le a List.mem_cons_self
      omega

theorem Fleet.Invariant.prepareCalls_le (inv : s.Invariant) (runId : String) :
    s.prepareCalls runId ≤ 1 := by
  have idle {w : Worker} (hw : w ∈ s.workers) (off : ¬ w.progress.loading = true) :
      w.progress.prepared.length = 0 := by
    refine List.length_eq_zero_iff.2 (not_not.1 fun h => off ?_)
    exact (inv.ok w hw).ordered.loading_of_prepared h
  refine sum_le_one (fun w hw => (inv.ok w (List.mem_of_mem_filter hw)).ordered.prepared_once) ?_
  have pairs : s.workers.Pairwise fun w w' => w.runId = w'.runId →
      ¬ (w.progress.loading = true ∧ w'.progress.loading = true) := by
    refine List.pairwise_iff_getElem.2 fun i j hi hj lt same both => ?_
    have := inv.single i j _ _ (List.getElem?_eq_getElem hi) (List.getElem?_eq_getElem hj) same
      both.1 both.2
    omega
  refine (List.pairwise_filter.2 ?_)
  refine pairs.imp_of_mem fun {w w'} hw hw' single run run' => ?_
  have same : w.runId = w'.runId := (of_decide_eq_true run).trans (of_decide_eq_true run').symm
  by_cases loading : w.progress.loading = true
  · exact .inr (idle hw' fun loading' => single same ⟨loading, loading'⟩)
  · exact .inl (idle hw loading)

/-- The fleet never takes a late run back to an early status. -/
theorem late_of_steps {s' : Fleet} (h : (fleet R iso env).Reachable s)
    (hs : (fleet R iso env).Steps s s') : ∀ run ∈ s.db.runs, ¬ run.Early →
      ∃ run', s'.db.getRun run.id = some run' ∧ ¬ run'.Early := by
  refine h.guarantee (G := fun s s' => ∀ run ∈ s.db.runs, ¬ run.Early →
    ∃ run', s'.db.getRun run.id = some run' ∧ ¬ run'.Early) ?_ ?_ ?_ hs
  · exact fun s run hr late => ⟨run, Database.getRun_of_mem hr, late⟩
  · intro s t u hst htu run hr late
    obtain ⟨run₁, found, late₁⟩ := hst run hr late
    obtain ⟨mem₁, hid⟩ := Database.mem_of_getRun found
    obtain ⟨run₂, found₂, late₂⟩ := htu run₁ mem₁ late₁
    exact ⟨run₂, hid ▸ found₂, late₂⟩
  · intro s i s' reachable step run hr late
    have consistent := fleet_consistent reachable run hr
    rcases (fleet_step_cases step).2.db_eq with same | ⟨call, called⟩
    · exact ⟨run, same ▸ Database.getRun_of_mem hr, late⟩
    · obtain ⟨run', found, rfl | moved⟩ := getRun_perform R iso i.1 call (Database.getRun_of_mem hr)
      · exact ⟨run', called ▸ found, late⟩
      · exact ⟨run', called ▸ found, moved.late consistent late⟩

theorem not_early_of_stage {run : PipelineRun} (consistent : run.lifecycle.Consistent)
    (working : run.stage ∈ [Stage.transfer, .verify]) : ¬ run.Early := by
  rcases consistent.stage_eq with hs | ⟨hs, -⟩
  · rw [show run.stage = stageForStatus run.status from hs] at working
    unfold PipelineRun.Early
    revert working
    cases run.status <;> decide
  · rw [show run.stage = .waitingForCompute from hs] at working
    exact absurd working (by decide)

/-- A claim that selects a late run ends it, because its worker was lost. -/
theorem perform_claim_late {run : PipelineRun} {db : Database} {now : Time} {active : String → Bool}
    {runId : Option String} (consistent : run.lifecycle.Consistent) (late : ¬ run.Early)
    (selected : db.selectClaimable now active runId = some run) (workerId : String)
    (leaseSeconds : Int) (newToken : Token) :
    ∃ run', (db.perform R iso now
        (.claimRun active workerId leaseSeconds runId newToken)).getRun run.id = some run' ∧
      run'.status = .failedNeedsReconciliation ∧ run'.errorCode = some (.known .workerLost) := by
  have chosen := List.mem_filter.1 (List.argmin_mem selected)
  have mem : run ∈ db.runs := chosen.1
  have claimable : run.claimable now = true := by
    have := chosen.2
    rw [Bool.and_eq_true, Bool.and_eq_true] at this
    exact this.1.1
  have owned : run.WorkerOwned ∧ run.leaseExpiresAt.isSome := by
    refine not_not.1 fun hw => late ?_
    rw [PipelineRun.Early, PipelineRun.queued_of_claimable claimable hw]
    decide
  have stage : run.stage ∈ [Stage.transfer, .verify] :=
    consistent.stage_of_late late (.inr (consistent.leased_of_owned owned.1).1)
  have claim : run.claim R now workerId leaseSeconds newToken =
      .ok (run.recordFailure R now PipelineRun.workerLost none, none) := by
    unfold PipelineRun.claim
    rw [if_pos owned, if_pos stage]
    rfl
  refine ⟨run.recordFailure R now PipelineRun.workerLost none, ?_, rfl, rfl⟩
  have performed : db.perform R iso now (.claimRun active workerId leaseSeconds runId newToken) =
      db.putRun (run.recordFailure R now PipelineRun.workerLost none) := by
    simp only [Database.perform, Database.step, Database.claimRun, selected, claim]
    rfl
  rw [performed]
  exact getRun_putRun (Database.getRun_of_mem mem) rfl

/-- A claim by id selects the run when its lease has expired and its owner is active. -/
theorem selectClaimable_self {run : PipelineRun} {db : Database} {now : Time}
    {active : String → Bool} (hr : run ∈ db.runs) (claimable : run.claimable now = true)
    (isActive : active run.userId = true) :
    db.selectClaimable now active (some run.id) = some run := by
  have mem : run ∈ db.runs.filter fun r =>
      r.claimable now && active r.userId && (some run.id).all fun id => decide (r.id = id) := by
    refine List.mem_filter.2 ⟨hr, ?_⟩
    simp [claimable, isActive]
  cases hs : db.selectClaimable now active (some run.id) with
  | none =>
    rw [List.argmin_eq_none.1 hs] at mem
    cases mem
  | some other =>
    have chosen := List.mem_filter.1 (List.argmin_mem hs)
    have sameId : other.id = run.id := by
      have := chosen.2
      rw [Bool.and_eq_true] at this
      simpa using this.2
    rw [Database.eq_of_id_eq chosen.1 hr sameId]

/-- At most one destination session per run, over any number of workers, claims and deferrals. -/
theorem one_session_per_run (lawful : ∀ id, (env id).lib.Lawful)
    (h : (fleet R iso env).Reachable s) :
    (∀ runId, s.prepareCalls runId ≤ 1) ∧
    ∀ run ∈ s.db.runs,
      (run.stage ∈ [Stage.transfer, .verify] →
        (∀ s', (fleet R iso env).Steps s s' → ∃ run', s'.db.getRun run.id = some run' ∧
          run'.status ∉ [queued, validating, extracting]) ∧
        (∀ now active runId, s.db.selectClaimable now active runId = some run →
          ∀ workerId leaseSeconds newToken, ∃ run', (s.db.perform R iso now
              (.claimRun active workerId leaseSeconds runId newToken)).getRun run.id = some run' ∧
            run'.status = .failedNeedsReconciliation ∧
            run'.errorCode = some (.known .workerLost)) ∧
        ∀ expires ∈ run.leaseExpiresAt, ∀ now active, expires ≤ now → active run.userId = true →
          s.db.selectClaimable now active (some run.id) = some run) ∧
      (run.status ∈ [queued, validating, extracting] → run.sourceRows = 0 ∧ run.loadedRows = 0) := by
  have inv := fleet_invariant lawful h
  refine ⟨inv.prepareCalls_le, fun run hr => ⟨fun working => ?_, fun early => ?_⟩⟩
  · have consistent := fleet_consistent h run hr
    have late := not_early_of_stage consistent working
    refine ⟨fun s' hs => late_of_steps h hs run hr late, ?_, ?_⟩
    · intro now active runId selected workerId leaseSeconds newToken
      exact perform_claim_late consistent late selected workerId leaseSeconds newToken
    · intro expires he now active expired isActive
      have owned : run.WorkerOwned := by
        rcases queued_or_owned_or_terminal run.status with hq | hw | ht
        · exact absurd ((consistent.unleased_of_queued hq).2.2.symm.trans he) nofun
        · exact hw
        · exact absurd ((consistent.unleased_of_terminal ht).2.2.symm.trans he) nofun
      exact selectClaimable_self hr (claimable_of_expired owned he expired) isActive
  · have rows := inv.early run hr early
    exact ⟨congrArg Prod.fst rows, congrArg Prod.snd rows⟩

theorem one_session_per_run_writing : ∃ s, undisturbed 34 = some s ∧
    s.prepareCalls "run" = 1 ∧ s.prepareCalls "run" ≤ 1 ∧
    ∃ run ∈ s.db.runs, run.stage = .transfer ∧ ∃ expires, run.leaseExpiresAt = some expires ∧
      ∀ now, expires ≤ now → s.db.selectClaimable now (fun _ => true) (some run.id) = some run := by
  obtain ⟨s, hs⟩ := Option.isSome_iff_exists.1 (by decide +kernel : (undisturbed 34).isSome)
  have facts : ∀ t ∈ undisturbed 34, t.prepareCalls "run" = 1 ∧ ∃ run ∈ t.db.runs,
      run.stage = .transfer ∧ run.leaseExpiresAt.isSome := by
    decide +kernel
  obtain ⟨once, run, hr, stage, dated⟩ := facts s hs
  obtain ⟨expires, he⟩ := Option.isSome_iff_exists.1 dated
  have single := one_session_per_run (fun _ => Library.sample_lawful) (sampleFleet_reachable hs)
  refine ⟨s, hs, once, single.1 "run", run, hr, stage, expires, he, fun now expired => ?_⟩
  have working := (single.2 run hr).1 (stage ▸ List.mem_cons_self)
  exact working.2.2 expires he now (fun _ => true) expired rfl

/-! ## Rows -/

/-- The number of rows and the sequence number of a batch are kept. -/
def SameRows (batch written : TransferBatch) : Prop :=
  written.rowCount = batch.rowCount ∧ written.sequence = batch.sequence

/-- What is written is the image of what was extracted, batch by batch. -/
structure WritesAll (j : Job) (sourceSchema : ObjectSchema) (batches written : List TransferBatch) :
    Prop where
  images : ∃ scan hmacKey, scanAll j sourceSchema batches = .ok scan ∧
    (batches ≠ [] → scan.columns = scan.schema.names) ∧
    List.Forall₂ (fun batch image => writtenBatch j.lib scan.columns
      j.snapshot.writePolicy.columnTypeOverrides (scanEffective j sourceSchema scan) hmacKey batch =
        .ok image) batches written
  rows : List.Forall₂ SameRows batches written

theorem Loads.writesAll {j : Job} {p : Progress} {batches written : List TransferBatch}
    (lawful : j.lib.Lawful) (h : Loads j p batches written)
    (all : written.length = batches.length) :
    ∃ sourceSchema, p.Source sourceSchema batches ∧ WritesAll j sourceSchema batches written := by
  obtain ⟨sourceSchema, plan, hmacKey, source, planned, -, -, writes⟩ := h
  rw [all, List.take_length] at writes
  refine ⟨sourceSchema, source, ⟨plan.scan, hmacKey, planned.scan, ?_, ?_⟩, ?_⟩
  · exact (scanned_of_scanAll lawful planned.scan).columns
  · rw [← planned.effective_eq]
    exact writes
  · refine writes.imp fun batch image hw => ?_
    have image := writtenBatch_image lawful planned.nodup hw
    exact ⟨image.rowCount, image.sequence⟩

/-- No row is lost, duplicated or reordered on the way to `finalize`, and the counters agree. -/
theorem no_row_lost (lawful : ∀ id, (env id).lib.Lawful) (h : (fleet R iso env).Reachable s) :
    ∀ w ∈ s.workers,
      (∀ session, w.program.head = some (.finalize session) →
        ∃ j ∈ w.job, ∃ sourceSchema batches row, w.progress.Source sourceSchema batches ∧
          WritesAll j sourceSchema batches w.progress.written ∧
          s.db.getRun w.runId = some row ∧ row.sourceRows = rowTotal batches) ∧
      ∀ verification,
        (∃ a, w.program.head = some (.service (.completeRun a)) ∧ a.verification = verification) ∨
        (∃ a, w.program.head = some (.service (.failRun a)) ∧
          a.verificationFacts = some verification) →
        ∃ j ∈ w.job, ∃ sourceSchema batches row, w.progress.Source sourceSchema batches ∧
          Reconciled j (rowTotal batches) verification ∧
          s.db.getRun w.runId = some row ∧ row.sourceRows = rowTotal batches := by
  have inv := fleet_invariant lawful h
  intro w hw
  have ok := inv.ok w hw
  obtain ⟨row, found, attached⟩ := inv.tracks w hw
  have counts (verifying : w.progress.verifying = true) {n : Nat}
      (counted : w.progress.counted = some n) : row.sourceRows = n :=
    (attached (ok.ordered.loading_of_verifying verifying)).counted n counted
  refine ⟨fun session next => ?_, fun verification next => ?_⟩
  · obtain ⟨-, verifying, -, -, -, j, hj, batches, loads, all, counted⟩ := ok.sat.allowed next
    obtain ⟨sourceSchema, source, writes⟩ := loads.writesAll (ok.lawful j hj) all
    exact ⟨j, hj, sourceSchema, batches, row, source, writes, found, counts verifying counted⟩
  · have accounts : ∃ j ∈ w.job, Accounts j w.progress verification := by
      rcases next with ⟨a, next, rfl⟩ | ⟨a, next, facts⟩
      · exact (ok.sat.allowed next).2
      · exact (ok.sat.allowed next).2.2 verification facts
    obtain ⟨j, hj, returned, sourceSchema, batches, source, counted, reconciled⟩ := accounts
    have verifying := ok.ordered.verifying_of_finalized (by rw [returned]; exact nofun)
    exact ⟨j, hj, sourceSchema, batches, row, source, reconciled, found, counts verifying counted⟩

/-- The next call of the worker is `finalize`. -/
def Worker.finalizes (w : Worker) : Bool :=
  match w.program.head with
  | some (.finalize _) => true
  | _ => false

theorem no_row_lost_finalizing : ∃ s, undisturbedPermuted 53 = some s ∧
    ∃ w ∈ s.workers, w.progress.written.map (fun b => b.frame.columns) =
        [[⟨"id", "Int64", [.int 1, .int 2]⟩], [⟨"id", "Int64", [.int 3]⟩]] ∧
      ∃ j ∈ w.job, ∃ sourceSchema batches row, w.progress.Source sourceSchema batches ∧
        WritesAll j sourceSchema batches w.progress.written ∧
        s.db.getRun w.runId = some row ∧ row.sourceRows = rowTotal batches := by
  obtain ⟨s, hs⟩ := Option.isSome_iff_exists.1 (by decide +kernel : (undisturbedPermuted 53).isSome)
  have facts : ∀ t ∈ undisturbedPermuted 53, ∃ w ∈ t.workers,
      w.progress.written.map (fun b => b.frame.columns) =
        [[⟨"id", "Int64", [.int 1, .int 2]⟩], [⟨"id", "Int64", [.int 3]⟩]] ∧
      w.finalizes = true := by
    decide +kernel
  obtain ⟨w, hw, written, next⟩ := facts s hs
  obtain ⟨session, next⟩ : ∃ session, w.program.head = some (.finalize session) := by
    unfold Worker.finalizes at next
    split at next
    · exact ⟨_, by assumption⟩
    · cases next
  have all := no_row_lost (fun _ => Library.sample_lawful) (sampleFleet_reachable hs) w hw
  exact ⟨s, hs, w, hw, written, all.1 session next⟩

end DataMover
