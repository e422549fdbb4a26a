import DataMover.Databricks.Passes
import DataMover.Engine.Conformance
import DataMover.Engine.Steadiness

/-!
# The protocol of a publication

What an observer of the connector's calls knows of the publication of one run, and which call may
come next.  The events that a worker records follow `WriterPhase.next`, the staging table is written
to only before the submission, and the statement of the publication is executed at most once, in a
session with the mark of the run, after `publish_submitted` has been recorded.  `publishOne_sat` and
`recoverOne_sat` prove that workers and recovery passes follow the protocol.
-/

namespace DataMover

open Program (lift attempt Sat Returning)

/-- The calls whose answers a worker's progress is observed from, when its destination connector
carries out the others. -/
def Progress.apart (p : Progress) : Progress :=
  { p with
    prepared := []
    session := none
    written := []
    finalized := .pending
    raised := none
    rolledBack := none }

/-- The connector carries out the call. -/
def Call.carried : Call → Bool
  | prepareDestination _ _ _ | writeBatch _ _ | finalize _ | abort _ => true
  | _ => false

namespace Databricks

/-! ## Workers -/

/-- What is known of the staging table. -/
inductive StagingView where
  | unknown
  | holds (rows : List Row)
  | gone
  deriving DecidableEq

/-- What a worker publishes and where: the qualified texts of its staging table and of its target,
and the key of the target, when it has one; the statement of its write policy; and its job. -/
structure Commission where
  runId : String
  staging : String
  target : Option String
  targetKey : Option String
  mode : Option PublishMode
  job : Option Job

/-- The rows are those that are inserted for the images of everything the source has yielded. -/
def Commission.Images (order : Commission) (extraction : Option Spool.Yield)
    (rows : List Row) : Prop :=
  ∃ j ∈ order.job, ∃ sourceSchema batches plan hmacKey written timestampNtzColumns,
    extraction = some { batches } ∧ Planned j sourceSchema batches plan ∧
    guardrailHmacKey j plan = .ok hmacKey ∧
    List.Forall₂ (Writes j plan hmacKey) batches written ∧
    rows = written.flatMap fun batch =>
      insertedRows plan.schema.names timestampNtzColumns batch.frame

/-- What the calls of a worker have shown of its publication. -/
structure Custody where
  order : Commission
  phase : WriterPhase := .start
  /-- `prepare_started` was recorded. -/
  owner : Bool := false
  table : StagingView := .unknown
  /-- Whether the statement of the publication returned, once it was executed. -/
  sent : Option Bool := none
  /-- The open session may carry the mark of the run. -/
  marked : Bool := false
  /-- What the other calls of the worker have shown. -/
  worker : Progress := {}

namespace Custody

/-- The events that may be recorded. -/
def Records (v : Custody) (event : PublicationEvent) : Prop :=
  (v.phase.next event).isSome ∧ (event ≠ .prepareStarted → v.owner = true) ∧
    match event with
    | .publishSubmitted => ∃ rows, v.table = .holds rows ∧
        v.order.Images v.worker.extraction rows
    | .committed => v.sent = some true
    | .cleanupConfirmed => v.table = .gone
    | .abortConfirmed => v.table = .gone ∧ v.sent = none
    | _ => True

/-- The statements that may be executed. -/
def Executes (v : Custody) : Statement → Prop
  | .createStaging table _ => v.owner = true ∧ v.phase = .prepared ∧ v.marked = false ∧
      table = v.order.staging
  | .insertValues table _ _ => v.owner = true ∧ v.phase = .staged ∧ v.marked = false ∧
      table = v.order.staging
  | .setUserMetadata id => v.owner = true ∧ v.phase = .staged ∧ id = v.order.runId
  | .publish _ mode target _ source => v.owner = true ∧ v.phase = .submitted ∧ v.sent = none ∧
      source = v.order.staging ∧ v.order.target = some target ∧ v.order.mode = some mode ∧
      ∃ rows, v.table = .holds rows ∧ v.order.Images v.worker.extraction rows
  | .dropIfExists table => v.owner = true ∧ v.marked = false ∧ table = v.order.staging

/-- What a worker may report of its run: a run that has failed without doubt has published nothing,
and a run that is complete has published. -/
def Reports (v : Custody) : WorkerCall → Prop
  | .failRun a => UncertainFailure a ∨ v.sent = none
  | .completeRun _ => v.sent = some true
  | .cancelClaimedRun _ | .blockRun _ _ | .blockComputeReadiness _ => v.sent = none
  | _ => True

/-- The calls that may come next. -/
def Allows (v : Custody) : DatabricksCall → Prop
  | .worker (.service call) => v.Reports call
  | .worker _ | .tableRows _ | .schemaRows _ | .readTags _ | .inspectObject _
  | .enableServerlessCompute | .closeSession => True
  | .record w runId event => runId = v.order.runId ∧ v.order.targetKey = some w.targetKey ∧
      v.Records event
  | .openSession tags => ∀ t ∈ tags, ∃ marker, t = publicationTags v.order.runId marker
  | .execute s => v.Executes s
  | _ => False

/-- What an event shows, once it was recorded or has raised. -/
def recorded (v : Custody) (event : PublicationEvent) (ok : Bool) : Custody :=
  { v with
    phase := if ok then (v.phase.next event).getD .stopped else .failed event
    owner := v.owner || (ok && decide (event = .prepareStarted)) }

/-- What a statement shows. -/
def executed (v : Custody) (s : Statement) (ok : Bool) : Custody :=
  match s with
  | .createStaging _ _ => { v with table := if ok then .holds [] else .unknown }
  | .insertValues _ _ rows => { v with table := match v.table with
      | .holds before => if ok then .holds (before ++ rows) else .unknown
      | _ => .unknown }
  | .setUserMetadata _ => { v with marked := true }
  | .publish _ _ _ _ _ => { v with sent := some ok }
  | .dropIfExists _ => { v with table := if ok then .gone else .unknown }

/-- What a call shows. -/
def observe (v : Custody) : (c : DatabricksCall) → Except Raised c.Answer → Custody
  | .worker call, r => { v with worker := v.worker.observe call (r.mapError Raised.exn) }
  | .record _ _ event, r => v.recorded event r.isOk
  | .openSession tags, r => { v with marked := r.isOk && tags.isSome }
  | .execute s, r => v.executed s r.isOk
  | .closeSession, _ => { v with marked := false }
  | _, _ => v

end Custody

/-! ## Passes -/

/-- What the calls of a recovery pass have shown; `staging` is the text of the staging table of a
run. -/
structure PassView where
  context : RecoveryContext
  staging : String → String
  claimed : Option (String × String) := none
  grant : Option RecoveryGrant := none
  /-- What was read instead of an operation. -/
  denied : Option RecoveryRead := none
  /-- The mark of the run was found. -/
  found : Bool := false
  /-- The staging table was dropped. -/
  dropped : Bool := false

/-- The state to which a pass without credentials defers its record; without its owner the record keeps
the state that it has. -/
def RecoveryRead.parks : RecoveryRead → Option PublicationState
  | granted _ | ownerUnavailable => none
  | credentialsUnavailable confirmed | credentialsStale confirmed => some (parked confirmed)

namespace PassView

/-- The pass has claimed this run with this token. -/
def Owns (v : PassView) (runId token : String) : Prop := v.claimed = some (runId, token)

/-- The calls that may come next. -/
def Allows (v : PassView) : DatabricksCall → Prop
  | .claimRecovery => v.claimed = none
  | .readOperation runId token => v.Owns runId token ∧ v.grant = none
  | .deferRecovery runId token _ _ _ state => v.Owns runId token ∧
      ((∃ read ∈ v.denied, state = read.parks) ∨ ∃ grant ∈ v.grant, state = some .uncertain ∨
        grant.state ∉ PublicationState.submittedStates ∧ state = some .cleanupPending)
  | .confirmCommit runId token submissionId => v.Owns runId token ∧ v.found = true ∧
      ∃ grant ∈ v.grant, submissionId = grant.submissionId
  | .finishRecovery runId token => v.Owns runId token ∧ v.dropped = true ∧ ∃ grant ∈ v.grant,
      grant.state ∉ PublicationState.submittedStates
  | .openSession tags => tags = none
  | .execute s => ∃ runId token, v.Owns runId token ∧ s = .dropIfExists (v.staging runId)
  | .enableServerlessCompute | .closeSession | .nowMs | .queryHistory _ _ _ | .describeHistory _ =>
    True
  | _ => False

/-- The marker of the target that a record names. -/
def marker (v : PassView) (grant : RecoveryGrant) : String :=
  ((v.context.parseLocator grant.targetLocatorJson).toOption.map v.context.targetKey).getD ""

/-- The view after a look for the mark of the operation. -/
def looking (v : PassView) (marks : RecoveryGrant → Bool) : PassView :=
  { v with found := v.found || v.grant.any marks }

/-- What a call shows; a confirmed commit changes the state of the operation. -/
def observe (v : PassView) (c : DatabricksCall) (r : Except Raised c.Answer) : PassView :=
  match c, r with
  | .claimRecovery, .ok claimed => { v with claimed }
  | .readOperation _ _, .ok (some (.granted grant)) => { v with grant := some grant }
  | .readOperation _ _, .ok (some read) => { v with denied := some read }
  | .confirmCommit _ _ _, .ok confirmed =>
    if confirmed = true then
      { v with grant := v.grant.map fun grant => { grant with state := .cleanupPending } }
    else v
  | .execute _, .ok _ => { v with dropped := true }
  | .queryHistory _ _ _, .ok page =>
    v.looking fun grant => page.res.any (Query.marks grant.submissionId (v.marker grant))
  | .describeHistory _, .ok history =>
    v.looking fun grant => historyMarks v.context.casefold grant.submissionId history
  | _, _ => v

end PassView

/-! ## The protocol -/

/-- A worker or a pass. -/
inductive View where
  | worker (v : Custody)
  | pass (v : PassView)

/-- The protocol of the publications. -/
def custodyProtocol : Protocol DatabricksCall.Answer Raised View where
  Allowed
    | .worker v, c => v.Allows c
    | .pass v, c => v.Allows c
  observe
    | .worker v, c, r => .worker (v.observe c r)
    | .pass v, c, r => .pass (v.observe c r)

end Databricks

end DataMover
