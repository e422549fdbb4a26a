import DataMover.Joint
import DataMover.Engine.Worker

/-!
# Nothing is written after a failure

A session of the destination is written to only as long as every batch was accepted and the session
was neither finalized nor aborted (`processOne_steady`).  Only the load concerns a session;
everything before and after it is confined to other calls.
-/

namespace DataMover

open Program (lift attempt Sat Confined Unless confined_call_bind)

/-- A call that writes to a session. -/
def Call.writes : Call → Bool
  | writeBatch _ _ | finalize _ => true
  | _ => false

/-- A call that concerns a session. -/
def Call.ofSession : Call → Bool
  | writeBatch _ _ | finalize _ | abort _ => true
  | _ => false

/-- A session is opened for this write policy. -/
def Call.Opens (mode : Option WriteMode) : Call → Prop
  | prepareDestination _ policy _ => mode = some policy.mode
  | _ => True

/-- Nothing is written to a session after a batch was refused, nor after it was finalized or
aborted; the state says whether one of these has happened. -/
def steadyProtocol (mode : Option WriteMode) : Protocol Call.Answer Exn Bool where
  Allowed stopped c := (c.writes = true → stopped = false) ∧ c.Opens mode
  observe stopped
    | .writeBatch _ _, r => match r with
      | .ok _ => stopped
      | .error _ => true
    | .finalize _, _ | .abort _, _ => true
    | _, _ => stopped

variable {mode : Option WriteMode}

/-- The program concerns no session. -/
abbrev Calm (mode : Option WriteMode) {α : Type} (p : Transfer α) : Prop :=
  Confined (fun c : Call => c.ofSession = false ∧ c.Opens mode) p

/-- The program does not write to a session. -/
abbrev Unwriting (mode : Option WriteMode) {α : Type} (p : Transfer α) : Prop :=
  Confined (fun c : Call => c.writes = false ∧ c.Opens mode) p

theorem Calm.sat {α : Type} {p : Transfer α} (h : Calm mode p) (stopped : Bool) :
    Sat (steadyProtocol mode) (fun s _ => s = stopped) stopped p := by
  refine Confined.sat h rfl fun s c hs hc => ⟨⟨fun writes => ?_, hc.2⟩, fun r => ?_⟩
  · obtain ⟨calm, -⟩ := hc
    cases c <;> first | cases calm; done | cases writes
  · subst hs
    obtain ⟨calm, -⟩ := hc
    cases c <;> first | rfl | cases calm

theorem Unwriting.sat {α : Type} {p : Transfer α} (h : Unwriting mode p) (stopped : Bool) :
    Sat (steadyProtocol mode) (fun _ _ => True) stopped p :=
  Confined.sat h trivial fun _ c _ hc =>
    ⟨⟨fun writes => absurd (hc.1.symm.trans writes) (by decide), hc.2⟩, fun _ => trivial⟩

theorem Calm.unwriting {α : Type} {p : Transfer α} (h : Calm mode p) : Unwriting mode p := by
  induction p with
  | pure a => trivial
  | throw e => trivial
  | request c next ih =>
    refine ⟨⟨?_, h.1.2⟩, fun r => ih r (h.2 r)⟩
    have calm := h.1.1
    cases c <;> first | rfl | cases calm

/-! ## The parts without a session -/

section Parts

variable {j : Job}

theorem calm_attempt (c : Call) (plain : c.ofSession = false ∧ c.Opens mode) :
    Calm mode (attempt (ask c)) :=
  (Program.confined_call (S := fun c : Call => c.ofSession = false ∧ c.Opens mode) plain).attempt

theorem calm_cancelClaimedRun (impact : Option DataImpact) : Calm mode (cancelClaimedRun impact) :=
  confined_call_bind ⟨rfl, trivial⟩ fun _ => trivial

theorem confined_checkpoint {S : Call → Prop} {onCancel : Transfer Unit} (lost : S .leaseLost)
    (requested : S .cancelRequested) (h : Confined S onCancel) : Confined S (checkpoint onCancel) := by
  refine confined_call_bind lost fun lost => ?_
  split
  · trivial
  · refine confined_call_bind requested fun cancelled => ?_
    split
    · exact h.bind fun _ => trivial
    · trivial

theorem calm_checkpoint {impact : Option DataImpact} :
    Calm mode (checkpoint (cancelClaimedRun impact)) :=
  confined_checkpoint ⟨rfl, trivial⟩ ⟨rfl, trivial⟩ (calm_cancelClaimedRun impact)

theorem calm_timedOut (started : Time) : Calm mode (timedOut j started) :=
  confined_call_bind ⟨rfl, trivial⟩ fun _ => trivial

theorem calm_destinationRowCount (d : Destination) : Calm mode (destinationRowCount d) := by
  unfold destinationRowCount
  split
  · trivial
  · refine (calm_attempt .countDestinationRows ⟨rfl, trivial⟩).bind fun value => ?_
    split <;> trivial

theorem calm_inspectDestinationSchema (d : Destination) : Calm mode (inspectDestinationSchema d) := by
  unfold inspectDestinationSchema
  split
  · trivial
  · refine (calm_attempt .inspectDestination ⟨rfl, trivial⟩).bind fun inspected => ?_
    split <;> trivial

theorem calm_validateRoute : Calm mode (validateRoute j) := by
  refine Program.confined_lift.bind fun destination => ?_
  refine calm_checkpoint.bind fun go => ?_
  split
  · trivial
  · refine confined_call_bind ⟨rfl, trivial⟩ fun _ => confined_call_bind ⟨rfl, trivial⟩ fun _ =>
      confined_call_bind ⟨rfl, trivial⟩ fun _ =>
      (calm_destinationRowCount destination).bind fun rowsBefore =>
      (calm_inspectDestinationSchema destination).bind fun schemaBefore =>
      confined_call_bind ⟨rfl, trivial⟩ fun sourceSchema => Program.confined_lift.bind fun _ =>
      calm_checkpoint.bind fun go => ?_
    split
    · trivial
    · split <;> exact confined_call_bind ⟨rfl, trivial⟩ fun _ => trivial

theorem calm_scanBatch {sourceSchema : ObjectSchema} {started lastHeartbeat : Time}
    {st : ScanState} {batch : TransferBatch} :
    Calm mode (scanBatch j sourceSchema started lastHeartbeat st batch) := by
  refine calm_checkpoint.bind fun go => ?_
  split
  · trivial
  · refine (calm_timedOut started).bind fun late => ?_
    split
    · trivial
    · refine Program.confined_lift.bind fun st => confined_call_bind ⟨rfl, trivial⟩ fun now => ?_
      split
      · exact confined_call_bind ⟨rfl, trivial⟩ fun _ =>
          confined_call_bind ⟨rfl, trivial⟩ fun _ => trivial
      · trivial

theorem calm_scanLoop {sourceSchema : ObjectSchema} {started lastHeartbeat : Time}
    {failure : Option Exn} {st : ScanState} {batches : List TransferBatch} :
    Calm mode (scanLoop j sourceSchema started failure lastHeartbeat st batches) := by
  induction batches generalizing st lastHeartbeat with
  | nil => cases failure <;> trivial
  | cons batch rest ih =>
    refine calm_scanBatch.bind fun next => ?_
    cases next with
    | none => trivial
    | some next => exact ih

theorem calm_scanSource {sourceSchema : ObjectSchema} {started : Time} :
    Calm mode (scanSource j sourceSchema started) := by
  refine confined_call_bind ⟨rfl, trivial⟩ fun _ => confined_call_bind ⟨rfl, trivial⟩ fun source =>
    calm_scanLoop.attempt.bind fun outcome => ?_
  rcases outcome with e | _ | st
  · exact confined_call_bind ⟨rfl, trivial⟩ fun _ => trivial
  · exact confined_call_bind ⟨rfl, trivial⟩ fun _ => trivial
  · refine (calm_attempt .closeSource ⟨rfl, trivial⟩).bind fun closed => ?_
    cases closed with
    | ok => trivial
    | error e => exact confined_call_bind ⟨rfl, trivial⟩ fun _ => trivial

theorem calm_refreshSource {sourceSchema : ObjectSchema} :
    Calm mode (refreshSource j sourceSchema) := by
  unfold refreshSource
  split
  · exact confined_call_bind ⟨rfl, trivial⟩ fun refreshed => Program.confined_lift
  · trivial

theorem calm_validateUpsertPolicy {d : Destination} {sourceSchema : ObjectSchema}
    {destinationSchema : Option ObjectSchema} :
    Calm mode (validateUpsertPolicy j d sourceSchema destinationSchema) := by
  unfold validateUpsertPolicy
  split
  · split
    · trivial
    · have inspected : Calm mode (inspectedOr destinationSchema) := by
        cases destinationSchema with
        | none => exact Program.confined_call ⟨rfl, trivial⟩
        | some schema => trivial
      refine inspected.bind fun inspected => ?_
      split
      · trivial
      · split <;> trivial
  · trivial

theorem calm_decideGuardrails {v : Validated} {scan : ScanState} :
    Calm mode (decideGuardrails j v scan) := by
  refine calm_checkpoint.bind fun go => ?_
  split
  · trivial
  · refine calm_refreshSource.bind fun _ => ?_
    simp only
    split
    · exact confined_call_bind ⟨rfl, trivial⟩ fun _ => trivial
    · refine Program.confined_lift.bind fun schema => confined_call_bind ⟨rfl, trivial⟩ fun _ =>
        calm_validateUpsertPolicy.bind fun destinationSchema => calm_checkpoint.bind fun go => ?_
      split
      · trivial
      · exact confined_call_bind ⟨rfl, trivial⟩ fun _ => trivial

theorem calm_openSession (policy : mode = some j.snapshot.writePolicy.mode) {v : Validated}
    {started : Time} : Calm mode (openSession j v started) := by
  refine calm_scanSource.bind fun scan => ?_
  cases scan with
  | none => trivial
  | some scan =>
    refine calm_decideGuardrails.bind fun plan => ?_
    cases plan with
    | none => trivial
    | some plan => exact confined_call_bind ⟨rfl, policy⟩ fun _ => trivial

theorem calm_refreshPublishedDestinationCache : Calm mode (refreshPublishedDestinationCache j) := by
  unfold refreshPublishedDestinationCache
  split
  · exact (calm_attempt .refreshPublishedDestinationCache ⟨rfl, trivial⟩).bind fun _ => trivial
  · exact (calm_attempt .refreshPublishedDestinationCache ⟨rfl, trivial⟩).bind fun _ => trivial
  · trivial

theorem calm_recordResult {v : Validated} {plan : Plan} {st : LoadState}
    {manifest : DestinationManifest} : Calm mode (recordResult j v plan st manifest) := by
  refine (calm_destinationRowCount v.destination).bind fun rowsAfter =>
    (calm_inspectDestinationSchema v.destination).bind fun schemaAfter => ?_
  simp only
  split
  · exact confined_call_bind ⟨rfl, trivial⟩ fun _ => calm_refreshPublishedDestinationCache
  · exact confined_call_bind ⟨rfl, trivial⟩ fun _ => calm_refreshPublishedDestinationCache

theorem calm_failRun (a : PipelineRun.FailArgs) : Calm mode (failRun a) :=
  confined_call_bind ⟨rfl, trivial⟩ fun _ => trivial

theorem calm_ignoringConflict {body : Transfer Unit} (h : Calm mode body) :
    Calm mode (ignoringConflict body) := by
  refine h.attempt.bind fun outcome => ?_
  rcases outcome with e | _
  · cases e <;> trivial
  · trivial

theorem calm_recordConnectorError {env : WorkerEnv} {failed : PipelineRun} {e : ConnectorError} :
    Calm mode (recordConnectorError env failed e) := by
  unfold recordConnectorError
  split
  · refine confined_call_bind ⟨rfl, trivial⟩ fun released => ?_
    split
    · trivial
    · exact calm_failRun _
  · split
    · exact confined_call_bind ⟨rfl, trivial⟩ fun _ => trivial
    · exact calm_failRun _

theorem calm_onTransferFailure {env : WorkerEnv} {e : Exn} : Calm mode (onTransferFailure env e) := by
  cases e with
  | connector e =>
    refine confined_call_bind ⟨rfl, trivial⟩ fun _ =>
      confined_call_bind ⟨rfl, trivial⟩ fun failed => ?_
    cases failed with
    | none => trivial
    | some failed => exact calm_ignoringConflict calm_recordConnectorError
  | runConflict message => exact confined_call_bind ⟨rfl, trivial⟩ fun _ => trivial
  | _ =>
    refine confined_call_bind ⟨rfl, trivial⟩ fun _ =>
      confined_call_bind ⟨rfl, trivial⟩ fun failed => ?_
    cases failed with
    | none => trivial
    | some failed => exact calm_ignoringConflict (calm_failRun _)

end Parts

/-! ## The load -/

section Load

variable {j : Job} {plan : Plan} {session : LoadSession} {started : Time}

theorem unwriting_abortQuietly : Unwriting mode (abortQuietly session) := by
  have aborts : Unwriting mode (attempt (ask (.abort session))) :=
    (Program.confined_call (S := fun c : Call => c.writes = false ∧ c.Opens mode) (c := .abort session)
      ⟨rfl, trivial⟩).attempt
  refine aborts.bind fun result => ?_
  cases result <;> trivial

theorem unwriting_cancelAfterAbort {run : PipelineRun} :
    Unwriting mode (cancelAfterAbort run session) :=
  unwriting_abortQuietly.bind fun _ => confined_call_bind ⟨rfl, trivial⟩ fun _ => trivial

/-- The `except` block writes nothing and always raises. -/
theorem onFailure_steady {α : Type} {session : Option LoadSession} {committed stopped : Bool}
    {exc : Exn} {I : Bool → Prop} :
    Sat (steadyProtocol mode) (Unless I) stopped (onFailure session committed exc : Transfer α) := by
  have aborts : Unwriting mode (abortOpen session) := by
    cases session with
    | none => trivial
    | some session => exact unwriting_abortQuietly.bind fun _ => trivial
  have aborted : Sat (steadyProtocol mode) (Unless fun _ => True) stopped (abortOpen session) := by
    refine (aborts.sat stopped).mono ?_
    rintro s (e | a) - <;> trivial
  refine Sat.unless_bind aborted fun s rolledBack _ => ?_
  · split
    · trivial
    · split
      · trivial
      · split
        · cases exc <;> trivial
        · trivial

/-- A part of the load goes on only when nothing has been stopped. -/
def GoesOn {α : Type} (stopped : Bool) : Except Exn (Option α) → Prop
  | .ok (some _) => stopped = false
  | _ => True

theorem steady_call_bind {β : Type} {c : Call} {f : c.Answer → Transfer β}
    {Q : Bool → Except Exn β → Prop} (plain : c.ofSession = false ∧ c.Opens mode)
    (error : ∀ s e, Q s (.error e)) (rest : ∀ a, Sat (steadyProtocol mode) Q false (f a)) :
    Sat (steadyProtocol mode) Q false (ask c >>= f) := by
  refine Sat.bind (Calm.sat (Program.confined_call plain) false) (fun s a hs => ?_)
    fun s e _ => error s e
  rw [show s = false from hs]
  exact rest a

/-- A checkpoint that aborts the session when the run is cancelled. -/
theorem steady_checkpoint {α : Type} {run : PipelineRun} {f : Bool → Transfer (Option α)}
    {Q : Bool → Except Exn (Option α) → Prop} (error : ∀ s e, Q s (.error e))
    (cancel : ∀ s, Sat (steadyProtocol mode) Q s (f false))
    (go : Sat (steadyProtocol mode) Q false (f true)) :
    Sat (steadyProtocol mode) Q false (checkpoint (cancelAfterAbort run session) >>= f) := by
  refine Program.sat_bind.2 ?_
  refine steady_call_bind ⟨rfl, trivial⟩ error fun lost => ?_
  cases lost with
  | true => exact error _ _
  | false =>
    refine steady_call_bind ⟨rfl, trivial⟩ error fun cancelled => ?_
    cases cancelled with
    | true =>
      exact Sat.bind (unwriting_cancelAfterAbort.sat false) (fun s _ _ => cancel s)
        fun s e _ => error s e
    | false => exact go

theorem loadBatch_steady {hmacKey : Bytes} {st : LoadState} {batch : TransferBatch} :
    Sat (steadyProtocol mode) GoesOn false (loadBatch j plan session hmacKey started st batch) := by
  refine steady_checkpoint (fun _ _ => trivial) (fun _ => trivial) ?_
  refine Sat.bind (Calm.sat (calm_timedOut started) false) (fun s late hs => ?_) fun _ _ _ => trivial
  rw [show s = false from hs]
  split
  · trivial
  · split
    · trivial
    · refine Sat.bind (Calm.sat Program.confined_lift false) (fun s written hs => ?_)
        fun _ _ _ => trivial
      rw [show s = false from hs]
      refine steady_call_bind ⟨rfl, trivial⟩ (fun _ _ => trivial) fun _ => ?_
      refine steady_call_bind ⟨rfl, trivial⟩ (fun _ _ => trivial) fun _ => ?_
      -- the only write of the loop
      refine Sat.call_bind ⟨fun _ => rfl, trivial⟩ (fun result => ?_) fun _ => trivial
      refine steady_call_bind ⟨rfl, trivial⟩ (fun _ _ => trivial) fun run => ?_
      exact steady_call_bind ⟨rfl, trivial⟩ (fun _ _ => trivial) fun _ => rfl

theorem loadLoop_steady {hmacKey : Bytes} {failure : Option Exn} {st : LoadState}
    {batches : List TransferBatch} :
    Sat (steadyProtocol mode) GoesOn false
      (loadLoop j plan session hmacKey started failure st batches) := by
  induction batches generalizing st with
  | nil =>
    cases failure with
    | none => rfl
    | some e => trivial
  | cons batch rest ih =>
    refine Sat.bind loadBatch_steady (fun s next goes => ?_) fun _ _ _ => trivial
    cases next with
    | none => trivial
    | some next =>
      obtain rfl : s = false := goes
      exact ih

theorem loadAndFinalize_steady :
    Sat (steadyProtocol mode) (Unless fun _ => True) false
      (loadAndFinalize j plan session started) := by
  refine Sat.bind (Calm.sat Program.confined_lift false) (fun s hmacKey hs => ?_)
    fun _ _ _ => trivial
  rw [show s = false from hs]
  refine Sat.bind loadLoop_steady (fun s st goes => ?_) fun _ _ _ => trivial
  cases st with
  | none => trivial
  | some st =>
    obtain rfl : s = false := goes
    refine steady_checkpoint (fun _ _ => trivial) (fun _ => trivial) ?_
    refine steady_call_bind ⟨rfl, trivial⟩ (fun _ _ => trivial) fun run => ?_
    refine steady_checkpoint (fun _ _ => trivial) (fun _ => trivial) ?_
    exact Sat.call_bind ⟨fun _ => rfl, trivial⟩ (fun _ => trivial) fun _ => trivial

theorem guarded_steady {α : Type} {session : Option LoadSession} {committed stopped : Bool}
    {body : Transfer α} {I : Bool → Prop} (h : Sat (steadyProtocol mode) (Unless I) stopped body) :
    Sat (steadyProtocol mode) (Unless I) stopped (guarded session committed body) := by
  refine Program.sat_bind.2 (Program.sat_attempt.2 (h.mono fun s r good => ?_))
  cases r with
  | ok a => exact good
  | error e => exact onFailure_steady

end Load

/-! ## The worker -/

theorem Calm.unless {α : Type} {p : Transfer α} (h : Calm mode p) :
    Sat (steadyProtocol mode) (Unless (· = false)) false p := by
  refine (Calm.sat h false).mono ?_
  rintro s (e | a) hs
  · trivial
  · exact hs

theorem executeTransfer_steady {j : Job} (policy : mode = some j.snapshot.writePolicy.mode) :
    Sat (steadyProtocol mode) (Unless fun _ => True) false (executeTransfer j) := by
  refine Sat.unless_bind (Calm.unless calm_validateRoute) fun s v hs => ?_
  obtain rfl : s = false := hs
  cases v with
  | none => trivial
  | some v =>
    refine steady_call_bind ⟨rfl, trivial⟩ (fun _ _ => trivial) fun started => ?_
    refine Sat.unless_bind (guarded_steady (Calm.unless (calm_openSession policy)))
      fun s opened hs => ?_
    obtain rfl : s = false := hs
    cases opened with
    | none => trivial
    | some opened =>
      refine Sat.unless_bind (guarded_steady loadAndFinalize_steady) fun s loaded _ => ?_
      cases loaded with
      | none => trivial
      | some loaded =>
        refine guarded_steady (Sat.mono (calm_recordResult.unwriting.sat s) ?_)
        rintro s (e | a) - <;> trivial

/-- The write policy of a run, when its definition can be read. -/
def WorkerEnv.writeMode? (env : WorkerEnv) (run : PipelineRun) : Option WriteMode :=
  (env.parseSnapshot run.definitionSnapshotJson).toOption.map fun snapshot => snapshot.writePolicy.mode

/-- A worker opens its session for the policy of the run and writes to it only until something has
failed. -/
theorem processOne_steady (env : WorkerEnv) (run : PipelineRun) :
    Sat (steadyProtocol (env.writeMode? run)) (fun _ _ => True) false (processOne env run) := by
  refine steady_call_bind ⟨rfl, trivial⟩ (fun _ _ => trivial) fun owner => ?_
  match owner with
  | none => exact (calm_failRun _).unwriting.sat false
  | some false => exact (calm_cancelClaimedRun none).unwriting.sat false
  | some true =>
    have transfer : Sat (steadyProtocol (env.writeMode? run)) (Unless fun _ => True) false
        (transferRun env run) := by
      unfold WorkerEnv.writeMode? transferRun
      generalize env.parseSnapshot run.definitionSnapshotJson = parsed
      refine Program.sat_bind.2 (Program.sat_lift.2 ?_)
      rcases parsed with e | snapshot
      · trivial
      refine steady_call_bind ⟨rfl, trivial⟩ (fun _ _ => trivial) fun _ => ?_
      refine steady_call_bind ⟨rfl, trivial⟩ (fun _ _ => trivial) fun _ => ?_
      refine Sat.unless_bind (Calm.unless Program.confined_lift) fun s _ hs => ?_
      obtain rfl : s = false := hs
      exact executeTransfer_steady rfl
    refine Program.sat_bind.2 (Program.sat_attempt.2 (transfer.mono fun s r _ => ?_))
    cases r with
    | ok _ => trivial
    | error e => exact calm_onTransferFailure.unwriting.sat s

end DataMover
