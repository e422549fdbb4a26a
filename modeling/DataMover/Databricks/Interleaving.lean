import DataMover.Databricks.Recovering
import DataMover.Pool

/-!
# One writer for each run

Any number of workers and recovery passes over one ledger, in all interleavings.  Each transaction
on the ledger may fail, or take effect and raise; other users change the runs at any time, and every
other request is answered arbitrarily.  A worker writes only after its `prepare_started` was
recorded, which succeeds once for a run.  So no two workers of a run ever write, and the statement
of its publication is executed at most once (`runs_have_one_writer`).
-/

namespace DataMover

open Program (Sat Workload Pool Turn)
open Transition

/-! ## The runs of a ledger -/

namespace PublicationTable

variable {t t' : PublicationTable} {now : Time} {run : Option RunLease} {w : PublicationWriter}
  {record : Publication} {runId : String} {event : PublicationEvent}

/-- The runs that have a record. -/
def runIds (t : PublicationTable) : List String := t.records.map Publication.runId

theorem notMem_runIds (absent : t.get runId = none) : runId ∉ t.runIds := by
  intro known
  obtain ⟨r, hr, rfl⟩ := List.mem_map.1 known
  have other := List.find?_eq_none.1 absent r hr
  simp at other

theorem runIds_commit (h : t.commit record = .ok t') : t.runIds ⊆ t'.runIds := by
  unfold commit at h
  split_ifs at h
  cases h
  unfold runIds put
  rw [map_runId_replace]
  exact List.Subset.refl _

/-- No event forgets a run. -/
theorem runIds_recorded (h : recordPublicationEvent now t run runId w event = .ok t') :
    t.runIds ⊆ t'.runIds := by
  rcases recordPublicationEvent_ok h with ⟨-, -, -, inserted⟩ | ⟨r, r', -, -, -, committed⟩
  · unfold runIds
    rw [inserted, List.map_append]
    exact List.subset_append_left ..
  · exact runIds_commit committed

/-- `prepare_started` is recorded for a run without a record, which it gets. -/
theorem prepareStarted_recorded
    (h : recordPublicationEvent now t run runId w .prepareStarted = .ok t') :
    runId ∉ t.runIds ∧ runId ∈ t'.runIds := by
  rcases recordPublicationEvent_ok h with ⟨-, absent, -, inserted⟩ | ⟨r, r', -, -, refused, -⟩
  · refine ⟨notMem_runIds absent, ?_⟩
    unfold runIds
    rw [inserted, List.map_append]
    exact List.mem_append_right _ (List.mem_singleton_self _)
  · cases refused

end PublicationTable

namespace Databricks

/-! ## The server -/

/-- How a transaction ends. -/
inductive Fate where
  | done
  /-- It takes effect and raises. -/
  | lost
  /-- It raises without an effect. -/
  | refused
  deriving DecidableEq

/-- What nobody here decides: the time, the runs as they are, how a transaction ends, which record
the candidate query finds and which token is drawn, whether credentials are granted, and every other
answer. -/
structure Chance where
  now : Time
  leases : String → Option RunLease
  fate : Fate
  raised : Raised
  candidate : String
  token : String
  access : RecoveryAccess
  workspaceId : String
  connectionGeneration : String
  onWarehouse : Bool
  answer : (c : DatabricksCall) → Except Raised c.Answer

section Server

variable (t : PublicationTable) (o : Chance)

/-- A transaction on the ledger. -/
def transact {α : Type} (result : α) :
    Except Exn PublicationTable → Except Raised α × PublicationTable
  | .error (.connector e) => (.error (.connector e), t)
  | .error _ => (.error (.provider { name := "integrityerror" }), t)
  | .ok ledger => match o.fate with
    | .done => (.ok result, ledger)
    | .lost => (.error o.raised, ledger)
    | .refused => (.error o.raised, t)

/-- Write the record of a pass, while the pass owns it. -/
def writeOwned {α : Type} (runId token : String) (absent present : α)
    (write : Publication → Publication) : Except Raised α × PublicationTable :=
  match (t.get runId).filter fun r => r.recoveryToken = some token with
  | none => transact t o absent (.ok t)
  | some r => transact t o present (t.commit (write r))

/-- The record that the candidate query finds. -/
def candidate? : Option Publication :=
  match t.get o.candidate, o.leases o.candidate with
  | some r, some run => if r.RecoveryCandidate o.now run then some r else none
  | _, _ => none

/-- The first transaction of a pass. -/
def claim : Except Raised (Option (String × String)) × PublicationTable :=
  match candidate? t o with
  | some r => transact t o (some (o.candidate, o.token)) (t.commit (r.claimRecovery o.now o.token))
  | none => transact t o none (.ok t)

/-- What a pass reads of a record that it owns. -/
def readRecord (r : Publication) : RecoveryRead :=
  match o.access with
  | .ownerUnavailable => .ownerUnavailable
  | .credentialsUnavailable => .credentialsUnavailable r.confirmedAt.isSome
  | .credentialsStale => .credentialsStale r.confirmedAt.isSome
  | .granted => .granted {
      state := r.state
      submissionId := r.submissionId
      targetLocatorJson := r.targetLocatorJson
      submittedAtMs := (r.submittedAt.map fun submitted => submitted / 1000).getD 0
      workspaceId := o.workspaceId
      connectionGeneration := o.connectionGeneration
      onWarehouse := o.onWarehouse }

/-- The second transaction of a pass. -/
def readOperation (runId token : String) :
    Except Raised (Option RecoveryRead) × PublicationTable :=
  let owned := (t.get runId).filter fun r => r.recoveryToken = some token
  transact t o (owned.map (readRecord o)) (.ok t)

/-- The answer to a call. -/
def reply : (c : DatabricksCall) → Except Raised c.Answer × PublicationTable
  | .record w runId event =>
    transact t o () (recordPublicationEvent o.now t (o.leases runId) runId w event)
  | .claimRecovery => claim t o
  | .readOperation runId token => readOperation t o runId token
  | .deferRecovery runId token code summary delay state =>
    writeOwned t o runId token () () (.deferRecovery o.now code summary delay state)
  | .confirmCommit runId token submissionId =>
    writeOwned t o runId token false true (.confirmCommit o.now submissionId)
  | .finishRecovery runId token => writeOwned t o runId token () () (.finishRecovery o.now)
  | c => (o.answer c, t)

/-- The run whose record a call claims, or tries to claim. -/
def claimedRun : DatabricksCall → Option String
  | .claimRecovery => (candidate? t o).map fun _ => o.candidate
  | _ => none

variable {t o}

theorem unchanged (ledger : PublicationTable)
    (h : (.ok t : Except Exn PublicationTable) = .ok ledger) : t.runIds ⊆ ledger.runIds := by
  cases h
  exact List.Subset.refl _

/-- A transaction leaves the ledger as it was, or takes effect. -/
theorem transact_cases {α : Type} (result : α) (outcome : Except Exn PublicationTable) :
    (transact t o result outcome).2 = t ∨ outcome = .ok (transact t o result outcome).2 := by
  unfold transact
  split
  · exact .inl rfl
  · exact .inl rfl
  · split
    · exact .inr rfl
    · exact .inr rfl
    · exact .inl rfl

theorem runIds_transact {α : Type} {result : α} {outcome : Except Exn PublicationTable}
    (grows : ∀ ledger, outcome = .ok ledger → t.runIds ⊆ ledger.runIds) :
    t.runIds ⊆ (transact t o result outcome).2.runIds := by
  rcases transact_cases (t := t) (o := o) result outcome with same | committed
  · rw [same]
    exact List.Subset.refl _
  · exact grows _ committed

theorem transact_ok {α : Type} {result a : α} {outcome : Except Exn PublicationTable}
    (h : (transact t o result outcome).1 = .ok a) :
    outcome = .ok (transact t o result outcome).2 := by
  unfold transact at h ⊢
  split at h
  · cases h
  · cases h
  · split at h
    · rfl
    · cases h
    · cases h

theorem runIds_writeOwned {α : Type} {runId token : String} {absent present : α}
    {write : Publication → Publication} :
    t.runIds ⊆ (writeOwned t o runId token absent present write).2.runIds := by
  unfold writeOwned
  split
  · exact runIds_transact unchanged
  · exact runIds_transact fun _ => PublicationTable.runIds_commit

/-- The ledger forgets no run. -/
theorem runIds_reply (c : DatabricksCall) : t.runIds ⊆ (reply t o c).2.runIds := by
  cases c with
  | record w runId event => exact runIds_transact fun _ => PublicationTable.runIds_recorded
  | claimRecovery =>
    simp only [reply, claim]
    split
    · exact runIds_transact fun _ => PublicationTable.runIds_commit
    · exact runIds_transact unchanged
  | readOperation runId token => exact runIds_transact unchanged
  | deferRecovery | confirmCommit | finishRecovery => exact runIds_writeOwned
  | _ => exact List.Subset.refl _

/-- A `prepare_started` that returns is the first of its run. -/
theorem reply_prepareStarted {w : PublicationWriter} {runId : String}
    (h : (reply t o (.record w runId .prepareStarted)).1.isOk = true) :
    runId ∉ t.runIds ∧ runId ∈ (reply t o (.record w runId .prepareStarted)).2.runIds := by
  cases answer : (reply t o (.record w runId .prepareStarted)).1 with
  | ok a => exact PublicationTable.prepareStarted_recorded (transact_ok answer)
  | error e =>
    rw [answer] at h
    cases h

end Server

/-! ## Workers and passes -/

/-- A worker of a run, or a recovery pass. -/
inductive Task where
  | work (x : Context) (env : WorkerEnv) (run : PipelineRun) (lawful : env.lib.Lawful)
  | recover (y : RecoveryContext)

namespace Task

def program : Task → Publisher Unit
  | work x env run _ => do
    let _ ← publishOne x env run
    return ()
  | recover y => do
    let _ ← recoverOne y
    return ()

def view : Task → View
  | work x env run _ => .worker { order := commission x env run }
  | recover y => .pass { context := y, staging := stagingText y }

end Task

/-- The ledger, the threads that have executed a statement, those that have executed the statement
of their publication, and the runs whose record a pass has claimed. -/
structure Shared where
  ledger : PublicationTable
  executed : List Nat := []
  published : List Nat := []
  claimed : List String := []

/-- A statement that changes something. -/
def DatabricksCall.executes : DatabricksCall → Bool
  | execute _ => true
  | _ => false

/-- The statement of a publication. -/
def DatabricksCall.publishes : DatabricksCall → Bool
  | execute (.publish _ _ _ _ _) => true
  | _ => false

/-- Workers and passes over one ledger. -/
def publicationWorkload :
    Workload DatabricksCall.Answer Raised Unit View Shared Task Chance where
  protocol := custodyProtocol
  program := Task.program
  view := Task.view
  serve o i s c := some ((reply s.ledger o c).1, {
    ledger := (reply s.ledger o c).2
    executed := if c.executes then s.executed ++ [i] else s.executed
    published := if c.publishes then s.published ++ [i] else s.published
    claimed := (claimedRun s.ledger o c).toList ++ s.claimed })

/-- All interleavings, from any ledger. -/
def publicationSystem :=
  publicationWorkload.system fun s => s.executed = [] ∧ s.published = []

theorem publicationWorkload_follows : publicationWorkload.Follows := by
  intro k
  cases k with
  | work x env run lawful =>
    exact Sat.bind (publishOne_sat lawful) (fun _ _ _ => trivial) fun _ _ _ => trivial
  | recover y => exact Sat.bind (recoverOne_sat y) (fun _ _ _ => trivial) fun _ _ _ => trivial

/-! ## What a call changes -/

namespace Custody

variable {v : Custody} {c : DatabricksCall} {r : Except Raised c.Answer}

theorem order_observe : (v.observe c r).order = v.order := by
  cases c with
  | execute statement => cases statement <;> rfl
  | _ => rfl

/-- A worker becomes the owner of its run with the first event. -/
theorem owner_observe (h : (v.observe c r).owner = true) : v.owner = true ∨
    ∃ w runId, c = .record w runId .prepareStarted ∧ r.isOk = true := by
  cases c with
  | record w runId event =>
    simp only [observe, recorded, Bool.or_eq_true, Bool.and_eq_true, decide_eq_true_eq] at h
    rcases h with owned | ⟨recorded, rfl⟩
    · exact .inl owned
    · exact .inr ⟨w, runId, rfl, recorded⟩
  | execute statement => cases statement <;> exact .inl h
  | _ => exact .inl h

theorem owner_kept (h : v.owner = true) : (v.observe c r).owner = true := by
  cases c with
  | record w runId event => exact Bool.or_eq_true_iff.2 (.inl h)
  | execute statement => cases statement <;> exact h
  | _ => exact h

theorem owner_of_executes {statement : Statement} (h : v.Executes statement) : v.owner = true := by
  cases statement <;> exact h.1

theorem sent_kept (h : v.sent.isSome) : (v.observe c r).sent.isSome := by
  cases c with
  | execute statement =>
    cases statement with
    | publish => rfl
    | _ => exact h
  | _ => exact h

/-- Only an owner that has not published publishes. -/
theorem sent_of_publishes (allowed : v.Allows c) (h : c.publishes = true) :
    v.owner = true ∧ v.sent = none ∧ (v.observe c r).sent.isSome := by
  unfold DatabricksCall.publishes at h
  split at h
  · obtain ⟨owner, -, unsent, -⟩ := allowed
    exact ⟨owner, unsent, rfl⟩
  · cases h

end Custody

/-- The run of a worker. -/
def View.runId? : View → Option String
  | .worker v => some v.order.runId
  | .pass _ => none

/-- A worker whose `prepare_started` was recorded. -/
def View.Owns (view : View) (runId : String) : Prop :=
  ∃ v, view = .worker v ∧ v.owner = true ∧ v.order.runId = runId

/-- A recovery pass, or a worker whose `prepare_started` was recorded. -/
def View.MayExecute : View → Prop
  | .worker v => v.owner = true
  | .pass _ => True

/-- A worker that has executed the statement of its publication. -/
def View.Sent (view : View) : Prop :=
  ∃ v, view = .worker v ∧ v.owner = true ∧ v.sent.isSome

section Observing

variable {view : View} {c : DatabricksCall} {r : Except Raised c.Answer} {runId : String}

theorem owns_observe (allowed : custodyProtocol.Allowed view c)
    (h : (custodyProtocol.observe view c r).Owns runId) : view.Owns runId ∨
      ∃ w, c = .record w runId .prepareStarted ∧ r.isOk = true := by
  obtain ⟨v', same, owner, rfl⟩ := h
  cases view with
  | pass v => cases same
  | worker v =>
    obtain rfl := View.worker.inj same
    rw [Custody.order_observe]
    rcases Custody.owner_observe owner with owned | ⟨w, runId, rfl, recorded⟩
    · exact .inl ⟨v, rfl, owned, rfl⟩
    · obtain ⟨rfl, -⟩ := allowed
      exact .inr ⟨w, rfl, recorded⟩

theorem mayExecute_observe (h : view.MayExecute) :
    (custodyProtocol.observe view c r).MayExecute := by
  cases view with
  | worker v => exact Custody.owner_kept h
  | pass v => trivial

/-- Only an owner executes statements, or a pass. -/
theorem mayExecute_of_executes (allowed : custodyProtocol.Allowed view c)
    (h : c.executes = true) : view.MayExecute := by
  cases view with
  | pass v => trivial
  | worker v =>
    cases c with
    | execute statement => exact Custody.owner_of_executes allowed
    | _ => cases h

theorem sent_observe (h : view.Sent) : (custodyProtocol.observe view c r).Sent := by
  obtain ⟨v, rfl, owner, sent⟩ := h
  exact ⟨_, rfl, Custody.owner_kept owner, Custody.sent_kept sent⟩

theorem sent_of_publishes (allowed : custodyProtocol.Allowed view c) (h : c.publishes = true) :
    ¬ view.Sent ∧ (custodyProtocol.observe view c r).Sent := by
  cases view with
  | pass v =>
    unfold DatabricksCall.publishes at h
    split at h
    · obtain ⟨_, _, _, ⟨⟩⟩ := allowed
    · cases h
  | worker v =>
    obtain ⟨owner, unsent, sent⟩ := Custody.sent_of_publishes (r := r) allowed h
    refine ⟨?_, _, rfl, Custody.owner_kept owner, sent⟩
    rintro ⟨_, same, -, again⟩
    obtain rfl := View.worker.inj same
    rw [unsent] at again
    cases again

/-- A worker that becomes the owner of a run is the first one. -/
theorem gains_run {s : Shared} {o : Chance} (allowed : custodyProtocol.Allowed view c)
    (owns : (custodyProtocol.observe view c (reply s.ledger o c).1).Owns runId) :
    view.Owns runId ∨
      runId ∉ s.ledger.runIds ∧ runId ∈ (reply s.ledger o c).2.runIds := by
  rcases owns_observe allowed owns with owned | ⟨w, rfl, recorded⟩
  · exact .inl owned
  · exact .inr (reply_prepareStarted recorded)

end Observing

/-! ## The invariant -/

/-- Threads whose views all satisfy a property. -/
def Marked (P : View → Prop) (threads : List Nat) (views : List View) : Prop :=
  ∀ i ∈ threads, ∃ view, views[i]? = some view ∧ P view

namespace Marked

variable {P : View → Prop} {threads : List Nat} {views : List View} {i : Nat} {view view' : View}

theorem nil : Marked P [] views := fun _ hi => absurd hi List.not_mem_nil

theorem concat (h : Marked P threads views) (view : View) : Marked P threads (views ++ [view]) := by
  intro j hj
  obtain ⟨w, hw, holds⟩ := h j hj
  exact ⟨w, Workload.getElem?_concat_left hw, holds⟩

theorem set (h : Marked P threads views) (hi : views[i]? = some view) (kept : P view → P view') :
    Marked P threads (views.set i view') := by
  intro j hj
  obtain ⟨w, hw, holds⟩ := h j hj
  by_cases same : i = j
  · subst same
    obtain rfl : view = w := Option.some.inj (hi.symm.trans hw)
    exact ⟨_, Workload.getElem?_set_self _ hi, kept holds⟩
  · exact ⟨w, (List.getElem?_set_ne same).trans hw, holds⟩

/-- A thread is marked by what its request shows. -/
theorem mark {shown : Bool} (h : Marked P threads views) (hi : views[i]? = some view)
    (kept : P view → P view') (holds : shown = true → P view') :
    Marked P (if shown then threads ++ [i] else threads) (views.set i view') := by
  split_ifs with marks
  · intro j hj
    rcases List.mem_append.1 hj with hj | hj
    · exact h.set hi kept j hj
    · rw [List.mem_singleton.1 hj]
      exact ⟨_, Workload.getElem?_set_self _ hi, holds marks⟩
  · exact h.set hi kept

end Marked

/-- The owner of a run is in the ledger and has no rival; only owners and passes execute statements;
a thread publishes once. -/
structure Shared.Apart (s : Shared) (views : List View) : Prop where
  known : ∀ (i : Nat) (view : View) (runId : String), views[i]? = some view → view.Owns runId →
    runId ∈ s.ledger.runIds
  alone : ∀ (i j : Nat) (view view' : View) (runId : String),
    views[i]? = some view → views[j]? = some view' → view.Owns runId → view'.Owns runId → i = j
  executed : Marked View.MayExecute s.executed views
  sent : Marked View.Sent s.published views
  once : s.published.Nodup

namespace Shared.Apart

variable {s s' : Shared} {views : List View} {i : Nat} {view : View} {c : DatabricksCall}
  {r : Except Raised c.Answer} {o : Chance}

theorem call (h : s.Apart views) (k : Task) : s.Apart (views ++ [k.view]) := by
  have unowned {runId : String} : ¬ k.view.Owns runId := by
    rintro ⟨v, same, owner, -⟩
    cases k with
    | recover y => cases same
    | work x env run lawful =>
      obtain rfl := View.worker.inj same
      cases owner
  refine ⟨fun j w runId hj owns => ?_, fun j l w w' runId hj hl owns owns' => ?_,
    h.executed.concat _, h.sent.concat _, h.once⟩
  · rcases Workload.getElem?_concat_cases hj with hj | rfl
    · exact h.known j w runId hj owns
    · exact absurd owns unowned
  · rcases Workload.getElem?_concat_cases hj with hj | rfl
    · rcases Workload.getElem?_concat_cases hl with hl | rfl
      · exact h.alone j l w w' runId hj hl owns owns'
      · exact absurd owns' unowned
    · exact absurd owns unowned

theorem step (h : s.Apart views) (hi : views[i]? = some view)
    (allowed : custodyProtocol.Allowed view c)
    (served : publicationWorkload.serve o i s c = some (r, s')) :
    s'.Apart (views.set i (custodyProtocol.observe view c r)) := by
  cases served
  refine ⟨fun j w runId hj owns => ?_, fun j l w w' runId hj hl owns owns' => ?_,
    h.executed.mark hi mayExecute_observe fun executes =>
      mayExecute_observe (mayExecute_of_executes allowed executes),
    h.sent.mark hi sent_observe fun publishes => (sent_of_publishes allowed publishes).2, ?_⟩
  · rcases Workload.getElem?_set_cases hj with ⟨rfl, rfl⟩ | ⟨-, hj⟩
    · rcases gains_run allowed owns with owned | ⟨-, known⟩
      · exact runIds_reply c (h.known j view runId hi owned)
      · exact known
    · exact runIds_reply c (h.known j w runId hj owns)
  · rcases Workload.getElem?_set_cases hj with ⟨rfl, rfl⟩ | ⟨-, hj'⟩ <;>
      rcases Workload.getElem?_set_cases hl with ⟨rfl, rfl⟩ | ⟨-, hl'⟩
    · rfl
    · rcases gains_run allowed owns with owned | ⟨absent, -⟩
      · exact h.alone j l view w' runId hi hl' owned owns'
      · exact absurd (h.known l w' runId hl' owns') absent
    · rcases gains_run allowed owns' with owned | ⟨absent, -⟩
      · exact h.alone j l w view runId hj' hi owns owned
      · exact absurd (h.known j w runId hj' owns) absent
    · exact h.alone j l w w' runId hj' hl' owns owns'
  · dsimp only
    split_ifs with publishes
    · refine List.nodup_append.2 ⟨h.once, List.nodup_singleton _, ?_⟩
      rintro j hj _ hl rfl
      rw [List.mem_singleton.1 hl] at hj
      obtain ⟨w, hw, sent⟩ := h.sent i hj
      obtain rfl : view = w := Option.some.inj (hi.symm.trans hw)
      exact (sent_of_publishes (r := (reply s.ledger o c).1) allowed publishes).1 sent
    · exact h.once

end Shared.Apart

/-! ## One writer for each run -/

section Runs

variable {s : Pool DatabricksCall.Answer Raised Unit View Shared}

theorem apart_init {shared : Shared} (empty : shared.executed = [] ∧ shared.published = []) :
    shared.Apart [] := by
  obtain ⟨executed, published⟩ := empty
  refine ⟨fun _ _ _ hi => (nomatch hi), fun _ _ _ _ _ hi => (nomatch hi), ?_, ?_, ?_⟩
  · rw [executed]
    exact .nil
  · rw [published]
    exact .nil
  · rw [published]
    exact .nil

theorem apart_of_reachable (h : publicationSystem.Reachable s) : s.shared.Apart s.views := by
  refine Workload.invariant publicationWorkload_follows (I := Shared.Apart) ?_ ?_ ?_ h
  · exact fun t => apart_init
  · exact fun t views k inv => inv.call k
  · exact fun t views i o view c r shared inv hi allowed served => inv.step hi allowed served

/-- A thread has executed a statement, or is about to execute one. -/
def Writes (s : Pool DatabricksCall.Answer Raised Unit View Shared) (i : Nat) : Prop :=
  i ∈ s.shared.executed ∨ ∃ thread, s.threads[i]? = some thread ∧
    ∃ statement, thread.program.head = some (.execute statement)

/-- A worker that writes owns its run. -/
theorem owns_of_writes (h : publicationSystem.Reachable s) {i : Nat} {view : View} {runId : String}
    (hi : s.views[i]? = some view) (run : view.runId? = some runId) (writes : Writes s i) :
    view.Owns runId := by
  rcases writes with executed | ⟨⟨program, view'⟩, ht, statement, next⟩
  · obtain ⟨view', hi', owner⟩ := (apart_of_reachable h).executed i executed
    obtain rfl : view = view' := Option.some.inj (hi.symm.trans hi')
    cases view with
    | pass v => cases run
    | worker v => exact ⟨v, rfl, owner, Option.some.inj run⟩
  · obtain rfl : view = view' :=
      Option.some.inj (hi.symm.trans (Workload.getElem?_views ht))
    cases view with
    | pass v => cases run
    | worker v =>
      cases program with
      | request c rest =>
        obtain rfl := Option.some.inj next
        have allowed : v.Executes statement :=
          Workload.allowed_request publicationWorkload_follows h ht rfl
        exact ⟨v, rfl, Custody.owner_of_executes allowed, Option.some.inj run⟩
      | pure | throw => cases next

/-- In every interleaving of workers and recovery passes, over any ledger and whatever is answered,
at most one worker of a run ever executes a statement, and it executes the statement of its
publication at most once. -/
theorem runs_have_one_writer (h : publicationSystem.Reachable s) : s.shared.published.Nodup ∧
    ∀ i j runId, (s.views[i]?).bind View.runId? = some runId →
      (s.views[j]?).bind View.runId? = some runId → Writes s i → Writes s j → i = j := by
  have apart := apart_of_reachable h
  refine ⟨apart.once, fun i j runId hi hj writes writes' => ?_⟩
  obtain ⟨view, hi, run⟩ := Option.bind_eq_some_iff.1 hi
  obtain ⟨view', hj, run'⟩ := Option.bind_eq_some_iff.1 hj
  exact apart.alone i j view view' runId hi hj (owns_of_writes h hi run writes)
    (owns_of_writes h hj run' writes')

/-! ## Two workers of one run -/

/-- Nothing raises, and the runs are leased to the sample worker. -/
def Chance.sample : Chance where
  now := 0
  leases _ := some {
    userId := "user", status := .loading, leaseToken := some "token", leaseExpiresAt := none }
  fate := .done
  raised := .provider { name := "" }
  candidate := sampleRunId
  token := "token"
  access := .granted
  workspaceId := "1"
  connectionGeneration := "generation"
  onWarehouse := true
  answer := sampleReply

def Task.sample : Task :=
  .work .sample .sampleDatabricks { PipelineRun.sample with id := sampleRunId }
    lawful_sampleDatabricks

/-- An empty ledger. -/
def noPublications : Pool DatabricksCall.Answer Raised Unit View Shared where
  shared := { ledger := .empty }

/-- Two workers of the sample run go on until both are about to record their `prepare_started`. -/
def rivals : List (Turn Task Chance) :=
  .start .sample :: .start .sample ::
    (List.replicate 27 (.answer 0 .sample) ++ List.replicate 27 (.answer 1 .sample))

/-- The first is answered until it has published, the second until it has returned. -/
def rivalry : List (Turn Task Chance) :=
  List.replicate 39 (.answer 0 .sample) ++ List.replicate 4 (.answer 1 .sample)

/-- A request to record the first event of a run. -/
def DatabricksCall.prepares : DatabricksCall → Bool
  | record _ _ .prepareStarted => true
  | _ => false

/-- The runs of the threads, and whether the call that a thread is about to make is of a kind. -/
def requesters (kind : DatabricksCall → Bool)
    (s : Pool DatabricksCall.Answer Raised Unit View Shared) : List (Option String × Bool) :=
  s.threads.map fun thread => (thread.view.runId?, thread.program.head.any kind)

theorem run_of_requesters {kind : DatabricksCall → Bool} {i : Nat} {runId : String} {asks : Bool}
    (h : (requesters kind s)[i]? = some (some runId, asks)) :
    (s.views[i]?).bind View.runId? = some runId := by
  rw [requesters, List.getElem?_map] at h
  obtain ⟨thread, hi, both⟩ := Option.map_eq_some_iff.1 h
  rw [Workload.getElem?_views hi]
  exact (Prod.mk.inj both).1

/-- Both workers ask for the first event of the run; one gets it and writes, and the other returns
without a statement. -/
theorem runs_have_one_writer_rivals : ∃ t s, publicationSystem.Reachable t ∧
    requesters DatabricksCall.prepares t = [(some sampleRunId, true), (some sampleRunId, true)] ∧
    publicationSystem.Steps t s ∧
    requesters (fun _ => true) s = [(some sampleRunId, true), (some sampleRunId, false)] ∧
    s.shared.executed = [0, 0, 0] ∧ s.shared.published = [0] ∧ ¬ Writes s 1 := by
  have asked : (run publicationWorkload.step noPublications rivals).map
      (requesters DatabricksCall.prepares) =
      some [(some sampleRunId, true), (some sampleRunId, true)] := by decide +kernel
  have ran : ((run publicationWorkload.step noPublications rivals).bind fun t =>
      run publicationWorkload.step t rivalry).map (fun s =>
        (requesters (fun _ => true) s, s.shared.executed, s.shared.published)) =
      some ([(some sampleRunId, true), (some sampleRunId, false)], [0, 0, 0], [0]) := by
    decide +kernel
  obtain ⟨t, ht, asked⟩ := Option.map_eq_some_iff.1 asked
  rw [ht, Option.bind_some] at ran
  obtain ⟨s, hs, found⟩ := Option.map_eq_some_iff.1 ran
  obtain ⟨returned, writers⟩ := Prod.mk.inj found
  obtain ⟨executed, published⟩ := Prod.mk.inj writers
  have init : publicationSystem.Reachable noPublications := .init ⟨⟨rfl, rfl⟩, rfl⟩
  have before := init.steps (steps_of_run ht)
  refine ⟨t, s, before, asked, steps_of_run hs, returned, executed, published, fun writes => ?_⟩
  have first : 0 ∈ s.shared.executed := by
    rw [executed]
    exact List.mem_cons_self
  have one : (requesters (fun _ => true) s)[0]? = some (some sampleRunId, true) := by
    rw [returned]
    rfl
  have other : (requesters (fun _ => true) s)[1]? = some (some sampleRunId, false) := by
    rw [returned]
    rfl
  have same := (runs_have_one_writer (before.steps (steps_of_run hs))).2 0 1 sampleRunId
    (run_of_requesters one) (run_of_requesters other) (.inl first) writes
  cases same

end Runs

end Databricks

end DataMover
