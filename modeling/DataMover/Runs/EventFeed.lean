import DataMover.Pool
import DataMover.ReadCommitted
import DataMover.Runs.State

/-!
# The event feed of a run

Transactions that append events through `append_event`, and readers that poll `events_after` with the
largest sequence that they have seen, over a READ COMMITTED database.  The increment of
`next_event_sequence` locks the row of the run until the transaction ends; the ORM inserts the events of
a transaction when it is flushed.
-/

namespace DataMover

open ReadCommitted Program

namespace EventFeed

/-! ## Tables -/

/-- A row of `pipeline_runs`: its sequence counter, and columns that other updates compare. -/
structure RunRow where
  id : String
  nextEventSequence : Nat := 0
  status : PipelineRunStatus := .queued
  stage : Stage := .queued
  deriving DecidableEq

/-- A row of `pipeline_run_events`. -/
structure EventRow extends PipelineRunEvent where
  id : String
  runId : String
  deriving DecidableEq

inductive Table where
  | runs
  | events
  deriving DecidableEq

def Table.Row : Table → Type
  | runs => RunRow
  | events => EventRow

def Table.key : {t : Table} → t.Row → String
  | runs, (run : RunRow) => run.id
  | events, (event : EventRow) => event.id

/-- `uq_pipeline_run_events_seq`. -/
def Table.clashes : {t : Table} → t.Row → t.Row → Bool
  | runs, _, _ => false
  | events, (a : EventRow), (b : EventRow) =>
    decide (a.runId = b.runId ∧ a.sequence = b.sequence)

inductive RunQuery where
  | any
  | id (id : String)
  | inStatus (status : PipelineRunStatus)
  deriving DecidableEq

def RunQuery.holds (run : RunRow) : RunQuery → Bool
  | any => true
  | id runId => decide (run.id = runId)
  | inStatus status => decide (run.status = status)

/-- The events of a run after a sequence. -/
structure EventQuery where
  runId : String
  afterSequence : Nat
  deriving DecidableEq

def EventQuery.holds (event : EventRow) (q : EventQuery) : Bool :=
  decide (event.runId = q.runId ∧ q.afterSequence < event.sequence)

def Table.Query : Table → Type
  | runs => RunQuery
  | events => EventQuery

def Table.holds : {t : Table} → t.Query → t.Row → Bool
  | runs, q, run => RunQuery.holds run q
  | events, q, event => EventQuery.holds event q

inductive RunChange where
  /-- `next_event_sequence = next_event_sequence + 1`. -/
  | increment
  /-- The ORM writes the sequence that was assigned to the object. -/
  | sequence (n : Nat)
  | columns (status : PipelineRunStatus) (stage : Stage)

/-- The sequence counter after a change. -/
def RunChange.counter (n : Nat) : RunChange → Nat
  | increment => n + 1
  | sequence m => m
  | columns _ _ => n

def RunChange.apply (run : RunRow) (change : RunChange) : RunRow :=
  match change with
  | columns status stage => { run with status := status, stage := stage }
  | change => { run with nextEventSequence := change.counter run.nextEventSequence }

/-- Events are never updated. -/
def Table.Change : Table → Type
  | runs => RunChange
  | events => Empty

def Table.apply : {t : Table} → t.Change → t.Row → t.Row
  | runs, change, run => RunChange.apply run change
  | events, change, _ => nomatch change

@[simp] theorem RunChange.id_apply (run : RunRow) (change : RunChange) :
    (change.apply run).id = run.id := by
  cases change <;> rfl

@[simp] theorem RunChange.counter_apply (run : RunRow) (change : RunChange) :
    (change.apply run).nextEventSequence = change.counter run.nextEventSequence := by
  cases change <;> rfl

@[reducible] def schema : Schema where
  Tab := Table
  decTab := inferInstance
  Row := Table.Row
  Query := Table.Query
  decQuery
    | .runs => inferInstanceAs (DecidableEq RunQuery)
    | .events => inferInstanceAs (DecidableEq EventQuery)
  Change := Table.Change
  key := Table.key
  holds := Table.holds
  apply := Table.apply
  clashes := Table.clashes
  key_apply {t} change row := by
    cases t with
    | runs => exact RunChange.id_apply row change
    | events => exact nomatch change

/-! ## Appending -/

/-- The answer to a statement, with the clock and the identifier that is drawn next. -/
structure Answered (α : Type) where
  value : α
  now : Time
  fresh : String

abbrev FeedStmt := Stmt schema

abbrev FeedReply (s : FeedStmt) := Answered s.Answer

abbrev FeedProgram := Program FeedReply Exn

def execute (s : FeedStmt) : FeedProgram (FeedReply s) := Program.call s

/-- The ORM's unit of work: the sequences that were assigned to runs and the events that were added. -/
structure Work where
  sequences : List (String × Nat) := []
  events : List EventRow := []

/-- `scalar_returning` of the increment; a database without `RETURNING` reads the row again. -/
def scalarReturning (supportsReturning : Bool) (runId : String) :
    FeedProgram (Answered (Option Nat)) := do
  let updated ← execute (.update .runs runId (.any : RunQuery) (.increment : RunChange))
  match (show Option RunRow from updated.value) with
  | none => return { updated with value := none }
  | some run =>
    if supportsReturning then return { updated with value := some run.nextEventSequence }
    else do
      let found ← execute (.select .runs (.id runId : RunQuery))
      let rows : List RunRow := found.value
      return { found with value := rows.head?.map RunRow.nextEventSequence }

/-- The columns of an event that do not depend on its sequence, with `run.stage` as it was loaded. -/
structure Line where
  message : String
  stage : Option Stage := none
  level : Level := .info
  runStage : Stage := .queued

/-- `append_event`. -/
def appendEvent (R : Redaction) (supportsReturning : Bool) (work : Work) (runId : String)
    (line : Line) : FeedProgram Work := do
  let sequence ← scalarReturning supportsReturning runId
  match sequence.value with
  | none => .throw (.runConflict "The pipeline run no longer exists.")
  | some n =>
    let event : EventRow := {
      id := sequence.fresh
      runId := runId
      sequence := n
      occurredAt := sequence.now
      level := line.level
      stage := line.stage.getD line.runStage
      message := clip 500 (R.text line.message) }
    return {
      sequences := (runId, n) :: work.sequences.filter (·.1 ≠ runId)
      events := work.events ++ [event] }

/-- The ORM writes the assigned sequences. -/
def flushSequences : List (String × Nat) → FeedProgram Unit
  | [] => return
  | (runId, n) :: rest => do
    let written ← execute (.update .runs runId (.any : RunQuery) (.sequence n : RunChange))
    match (show Option RunRow from written.value) with
    | none => .throw (.other "StaleDataError")
    | some _ => flushSequences rest

/-- The ORM inserts the events in the order in which they were added. -/
def flushEvents : List EventRow → FeedProgram Unit
  | [] => return
  | event :: rest => do
    let inserted ← execute (.insert .events event)
    if (show Bool from inserted.value) then flushEvents rest
    else .throw (.other "IntegrityError")

/-- `db.flush()`. -/
def flush (work : Work) : FeedProgram Unit := do
  flushSequences work.sequences
  flushEvents work.events

/-- What a writer does with its session. -/
inductive Step where
  /-- A new run is added and flushed. -/
  | create (runId : String) (status : PipelineRunStatus) (stage : Stage)
  | append (runId : String) (line : Line)
  /-- `SELECT … FOR UPDATE` of a run. -/
  | lock (runId : String) (q : RunQuery)
  /-- Another `UPDATE` of a run. -/
  | update (runId : String) (q : RunQuery) (status : PipelineRunStatus) (stage : Stage)
  | flush
  | commit
  | rollback

/-- The steps of a writer. -/
def write (R : Redaction) (supportsReturning : Bool) : Work → List Step → FeedProgram Unit
  | _, [] => return
  | work, .create runId status stage :: rest => do
    let run : RunRow := { id := runId, status := status, stage := stage }
    let inserted ← execute (.insert .runs run)
    if (show Bool from inserted.value) then write R supportsReturning work rest
    else .throw (.other "IntegrityError")
  | work, .append runId line :: rest => do
    let work ← appendEvent R supportsReturning work runId line
    write R supportsReturning work rest
  | work, .lock runId q :: rest => do
    let _ ← execute (.lock .runs runId q)
    write R supportsReturning work rest
  | work, .update runId q status stage :: rest => do
    let _ ← execute (.update .runs runId q (.columns status stage : RunChange))
    write R supportsReturning work rest
  | work, .flush :: rest => do
    flush work
    write R supportsReturning {} rest
  | work, .commit :: rest => do
    flush work
    let _ ← execute .commit
    write R supportsReturning {} rest
  | _, .rollback :: rest => do
    let _ ← execute .rollback
    write R supportsReturning {} rest

/-! ## Reading -/

/-- `ORDER BY sequence ASC`. -/
def ordered (rows : List EventRow) : List EventRow :=
  rows.insertionSort fun a b => a.sequence ≤ b.sequence

/-- `events_after`. -/
def eventsAfter (runId : String) (afterSequence : Nat) : FeedProgram (List EventRow) := do
  let found ← execute (.select .events (⟨runId, afterSequence⟩ : EventQuery))
  return ordered found.value

/-- The largest sequence that has been seen. -/
def largest (cursor : Nat) (events : List EventRow) : Nat :=
  events.foldl (fun n event => max n event.sequence) cursor

/-- A reader polls with the largest sequence that it has seen, and keeps what it is given. -/
def poll (runId : String) (seen : List EventRow) : Nat → FeedProgram (List EventRow)
  | 0 => return seen
  | n + 1 => do
    let events ← eventsAfter runId (largest 0 seen)
    poll runId (seen ++ events) n

/-! ## Writers and readers side by side -/

inductive FeedCall where
  | write (steps : List Step)
  | read (runId : String) (polls : Nat)

/-- Closing the database session rolls back. -/
def closing {α : Type} (p : FeedProgram α) : FeedProgram α := do
  let outcome ← Program.attempt p
  let _ ← Program.attempt (execute .rollback)
  Program.lift outcome

/-- A call returns the events that it has been given. -/
def FeedCall.program (R : Redaction) (supportsReturning : Bool) :
    FeedCall → FeedProgram (List EventRow)
  | write steps => closing do
    EventFeed.write R supportsReturning {} steps
    return []
  | read runId polls => closing (poll runId [] polls)

/-- The run that a reader reads. -/
def FeedCall.runId : FeedCall → String
  | write _ => ""
  | read runId _ => runId

/-- What is known of a call: for each run that its transaction has locked, the counter as it is
committed and as it has been written, the events that it has inserted, and of a reader what its polls
have found. -/
structure FeedView where
  call : FeedCall
  /-- All answers were possible. -/
  Sane : Prop := True
  counter : String → Option (Nat × Nat) := fun _ => none
  inserted : List EventRow := []
  delivered : List EventRow := []

namespace FeedView

variable (v : FeedView)

/-- The counter of a run as it is committed. -/
def base (runId : String) : Nat := ((v.counter runId).map Prod.fst).getD 0

/-- The counter of a run as the transaction has written it. -/
def top (runId : String) : Nat := ((v.counter runId).map Prod.snd).getD 0

/-- The inserted events of a run. -/
def insertedOf (runId : String) : List EventRow := v.inserted.filter (·.runId = runId)

/-- The transaction is over. -/
def ended : FeedView := { v with counter := fun _ => none, inserted := [] }

/-- A run has been written that has this counter now, and had the counter `before`. -/
def wrote (runId : String) (before now : Nat) : FeedView :=
  { v with
    counter := Function.update v.counter runId
      (some (((v.counter runId).map Prod.fst).getD before, now)) }

/-- What an answer says. -/
def note : (s : FeedStmt) → s.Answer → FeedView
  | .select .events _, rows =>
    let events : List EventRow := ordered rows
    { v with delivered := v.delivered ++ events }
  | .lock .runs runId _, answer =>
    match (show Option RunRow from answer) with
    | some run => v.wrote runId run.nextEventSequence run.nextEventSequence
    | none => v
  | .update .runs runId _ change, answer =>
    match (show RunChange from change), (show Option RunRow from answer) with
    | .increment, some run => v.wrote runId (run.nextEventSequence - 1) run.nextEventSequence
    | _, some run => v.wrote runId run.nextEventSequence run.nextEventSequence
    | _, none => v
  | .insert .runs row, inserted =>
    if (show Bool from inserted) then v.wrote (RunRow.id row) 0 0 else v
  | .insert .events event, inserted =>
    let event : EventRow := event
    if (show Bool from inserted) then { v with inserted := v.inserted ++ [event] } else v
  | .commit, _ => v.ended
  | .rollback, _ => v.ended
  | _, _ => v

/-- What a transaction that has written these counters may be told. -/
def Possible : (s : FeedStmt) → s.Answer → Prop
  | .select .runs q, rows => ∀ run ∈ (show List RunRow from rows), RunQuery.holds run q = true ∧
    ∀ b m, v.counter run.id = some (b, m) → run.nextEventSequence = m
  | .lock .runs runId _, answer => ∀ run, (show Option RunRow from answer) = some run →
    ∀ b m, v.counter runId = some (b, m) → run.nextEventSequence = m
  | .update .runs runId _ change, answer => ∀ run, (show Option RunRow from answer) = some run →
    ∃ n, run.nextEventSequence = RunChange.counter n change ∧
      ∀ b m, v.counter runId = some (b, m) → n = m
  | .insert .runs run, inserted => (show Bool from inserted) = true →
    v.counter (RunRow.id run) = none
  | _, _ => True

/-- What is known after an answer; a statement that raises ends the transaction. -/
def observe (s : FeedStmt) : Except Exn (FeedReply s) → FeedView
  | .ok reply => { v.note s reply.value with Sane := v.Sane ∧ v.Possible s reply.value }
  | .error _ => v.ended

/-- An event is inserted with the next sequence under the lock on its run, a transaction commits all
events that it has counted, and a reader asks for what it has not seen. -/
def Relies : FeedStmt → Prop
  | .select .events q => q = (⟨v.call.runId, largest 0 v.delivered⟩ : EventQuery) ∧ v.inserted = []
  | .select .runs _ => True
  | .lock t _ _ => t = .runs
  | .update .runs runId _ change =>
    match (show RunChange from change) with
    | .sequence n => ∃ b, v.counter runId = some (b, n)
    | _ => True
  | .update .events _ _ _ => True
  | .insert .runs run => RunRow.nextEventSequence run = 0
  | .insert .events event =>
    let event : EventRow := event
    ∃ b m, v.counter event.runId = some (b, m) ∧
      event.sequence = b + 1 + (v.insertedOf event.runId).length ∧ event.sequence ≤ m
  | .commit => ∀ runId b m, v.counter runId = some (b, m) → b + (v.insertedOf runId).length = m
  | .rollback => True

end FeedView

/-- Nothing is said about a call that was told something impossible. -/
def protocol : Protocol FeedReply Exn FeedView where
  Allowed v s := v.Sane → v.Relies s
  observe v s answer := v.observe s answer

/-- What the database decides: whether a statement raises, the clock and the identifiers. -/
structure FeedOracle where
  raises : Bool := false
  now : Time := 0
  fresh : String := ""

/-- The answer to a statement of the thread `i`; a statement that raises ends its transaction. -/
def serve (o : FeedOracle) (i : Nat) (db : Db schema) (s : FeedStmt) :
    Option (Except Exn (FeedReply s) × Db schema) :=
  if o.raises then some (.error (.other "DBAPIError"), db.rollback i)
  else (db.exec i s).map fun a => (.ok ⟨a.1, o.now, o.fresh⟩, a.2)

/-- At first there are no events, and no transaction is open. -/
def Quiet (db : Db schema) : Prop :=
  (∀ a, (db.cell a).lock = none) ∧ (∀ k, (db.cell ⟨.events, k⟩).committed = none) ∧
    (∀ k, ∀ run : RunRow, (db.cell ⟨.runs, k⟩).committed = some run → run.nextEventSequence = 0) ∧
    (db.keys .events).Nodup

/-- Any number of writers and readers. -/
def workload (R : Redaction) (supportsReturning : Bool) :
    Workload FeedReply Exn (List EventRow) FeedView (Db schema) FeedCall FeedOracle where
  protocol := protocol
  program := FeedCall.program R supportsReturning
  view call := { call := call }
  serve := serve

/-- All interleavings of writers and readers. -/
def system (R : Redaction) (supportsReturning : Bool) :=
  (workload R supportsReturning).system Quiet

end EventFeed

end DataMover
