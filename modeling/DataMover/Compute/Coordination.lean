import DataMover.Compute.Start

/-!
# Coordinating compute starts

All interleavings of the calls of `Compute.Start` over one table, whose primary key and unique
`active_key` the database enforces.  Every call follows `startProtocol`.
-/

namespace DataMover

open PipelineRun (AttemptStatus)
open Transition
open Program (Sat Workload Pool Turn)

/-! ## The table -/

/-- The table `databricks_compute_attempts` with its constraints. -/
structure AttemptTable where
  rows : List DatabricksComputeAttempt
  primaryKey : (rows.map DatabricksComputeAttempt.id).Nodup
  uniqueActiveKey : (rows.filterMap DatabricksComputeAttempt.activeKey).Nodup

namespace AttemptTable

variable (t : AttemptTable)

/-- The row with a primary key. -/
def get (id : String) : Option DatabricksComputeAttempt := t.rows.find? fun a => a.id = id

/-- The row with an active key. -/
def findActive (computeKey : String) : Option DatabricksComputeAttempt :=
  t.rows.find? fun a => a.activeKey = some computeKey

/-- A table with the rows; `none` when they violate a constraint. -/
def ofRows (rows : List DatabricksComputeAttempt) : Option AttemptTable :=
  if h : (rows.map DatabricksComputeAttempt.id).Nodup ∧
      (rows.filterMap DatabricksComputeAttempt.activeKey).Nodup then some ⟨rows, h.1, h.2⟩
  else none

/-- An `INSERT`. -/
def insert (a : DatabricksComputeAttempt) : Option AttemptTable := ofRows (t.rows ++ [a])

/-- An `UPDATE`. -/
def update (f : DatabricksComputeAttempt → DatabricksComputeAttempt) : Option AttemptTable :=
  ofRows (t.rows.map f)

/-- An `UPDATE` by primary key. -/
def updateAt (id : String) (f : DatabricksComputeAttempt → DatabricksComputeAttempt) :
    Option AttemptTable :=
  t.update fun a => if a.id = id then f a else a

variable {t} {t' : AttemptTable}

theorem ofRows_eq {rows : List DatabricksComputeAttempt} (h : ofRows rows = some t') :
    t'.rows = rows := by
  unfold ofRows at h
  split_ifs at h
  cases h
  rfl

theorem get_mem {id : String} {a : DatabricksComputeAttempt} (h : t.get id = some a) :
    a ∈ t.rows ∧ a.id = id := by
  refine ⟨List.mem_of_find?_eq_some h, ?_⟩
  have := List.find?_some h
  simpa using this

/-- Rows with the same primary key are the same. -/
theorem eq_of_id {a b : DatabricksComputeAttempt} (ha : a ∈ t.rows) (hb : b ∈ t.rows)
    (h : a.id = b.id) : a = b :=
  List.inj_on_of_nodup_map t.primaryKey ha hb h

/-- At most one row has an active key. -/
theorem eq_of_activeKey {a b : DatabricksComputeAttempt} {key : String} (ha : a ∈ t.rows)
    (hb : b ∈ t.rows) (hka : a.activeKey = some key) (hkb : b.activeKey = some key) : a = b := by
  have unique := t.uniqueActiveKey
  obtain ⟨i, hi, rfl⟩ := List.getElem_of_mem ha
  obtain ⟨j, hj, rfl⟩ := List.getElem_of_mem hb
  by_contra different
  have apart := List.pairwise_iff_getElem.1 (List.pairwise_filterMap.1 unique)
  rcases Nat.lt_trichotomy i j with lt | rfl | lt
  · exact apart i j hi hj lt key hka key hkb rfl
  · exact different rfl
  · exact apart j i hj hi lt key hkb key hka rfl

end AttemptTable

/-! ## The server -/

/-- The tables, and the attempts for which the provider was asked to start. -/
structure ComputeState where
  attempts : AttemptTable
  revisions : String → Option String
  started : List String := []

/-- What the clock, the random numbers, the runs and the provider contribute to an answer. -/
structure ComputeOracle where
  now : Time
  newId : String := ""
  /-- The due attempt that `claim_due_attempt` finds unlocked. -/
  due : String := ""
  flag : Bool := true
  start : Except Exn StartResult := .error (.other "Exception")
  /-- The request fails and has no effect. -/
  fault : Option Exn := none

namespace ComputeState

variable (settings : StartupSettings) (o : ComputeOracle) (s : ComputeState)

/-- Commit a statement, or raise its `IntegrityError`. -/
def commit {α : Type} (attempts : Option AttemptTable) (a : α) : Except Exn α × ComputeState :=
  match attempts with
  | none => (.error (.other "IntegrityError"), s)
  | some attempts => (.ok a, { s with attempts })

/-- Commit what a call makes of the row that it has locked, when it makes something of it. -/
def commitLocked {α : Type} (id : String)
    (f : DatabricksComputeAttempt → Option DatabricksComputeAttempt) (absent : α)
    (done : DatabricksComputeAttempt → α) : Except Exn α × ComputeState :=
  match (s.attempts.get id).bind f with
  | none => (.ok absent, s)
  | some a => s.commit (s.attempts.updateAt id fun _ => a) (done a)

/-- A request that does not fail. -/
def respond : (c : ComputeRequest) → Except Exn c.Answer × ComputeState
  | .enterRun | .resolveConnector => (.ok o.flag, s)
  | .linkRun _ => (.ok (), s)
  | .findActive computeKey => (.ok (s.attempts.findActive computeKey), s)
  | .insertAttempt userId c =>
    let row := DatabricksComputeAttempt.reserved o.now settings o.newId userId c
    match s.attempts.insert row with
    | none => (.ok none, s)
    | some attempts => (.ok (some row), { s with attempts })
  | .revision userId => (.ok (s.revisions userId), s)
  | .startCompute id => (o.start, { s with started := s.started ++ [id] })
  | .recordStartSubmission id result =>
    s.commit (s.attempts.updateAt id fun a => a.recordStartSubmission o.now settings result) ()
  | .recordStartUncertain id error =>
    s.commit (s.attempts.updateAt id fun a => a.recordStartUncertain o.now error) ()
  | .getAttempt id => (.ok (s.attempts.get id), s)
  | .commitFailure read error =>
    s.commit (s.attempts.updateAt read.id fun a =>
      DatabricksComputeAttempt.flushChanged read (read.failStart o.now error) a) ()
  | .recordRuntimeStatus userId revision => (.ok (decide (s.revisions userId = some revision)), s)
  | .cancelComputeObservation userId id =>
    s.commitLocked id (fun a => a.cancelObservation o.now userId) false fun _ => true
  | .resumeComputeObservation userId id =>
    s.commitLocked id (fun a => a.resumeObservation o.now userId) none fun a =>
      some (if a.status = .timedOut then "timed_out" else "resumed")
  | .claimDueAttempt leaseSeconds =>
    s.commitLocked o.due
      (fun a => if a.Due o.now then some (a.leased o.now o.newId leaseSeconds) else none) none
      fun a => some (a.id, o.newId)
  | .observeAttempt id token state error =>
    s.commitLocked id (fun a => a.observe o.now settings token state error) false fun _ => true
  | .replaceCredentials userId revision =>
    let s := { s with revisions := fun user => if user = userId then revision else s.revisions user }
    s.commit (s.attempts.update fun a => a.invalidate o.now userId) ()

/-- A request. -/
def serve (c : ComputeRequest) : Except Exn c.Answer × ComputeState :=
  match o.fault with
  | some e => (.error e, s)
  | none => s.respond settings o c

end ComputeState

/-! ## The protocol -/

/-- What has been observed of a call: the attempt it created, whether it asked the provider, and the
rows it has read. -/
structure StartView where
  created : Option String := none
  asked : Bool := false
  reads : List DatabricksComputeAttempt := []

/-- A call creates one attempt and asks the provider once, for this attempt; it commits a failure only
over a starting attempt that it has read. -/
def startProtocol : Protocol ComputeRequest.Answer Exn StartView where
  Allowed v
    | .insertAttempt _ _ => v.created = none
    | .startCompute id => v.created = some id ∧ v.asked = false
    | .commitFailure read _ => read ∈ v.reads ∧ read.status = .starting
    | _ => True
  observe v
    | .insertAttempt _ _, .ok (some a) => { v with created := some a.id }
    | .startCompute _, _ => { v with asked := true }
    | .getAttempt _, .ok (some a) => { v with reads := a :: v.reads }
    | _, _ => v

/-! ## The calls follow the protocol -/

section Conformance

variable {v : StartView}

/-- A call follows the protocol from a state on. -/
abbrev Conforms {α : Type} (v : StartView) (p : Starter α) : Prop :=
  Sat startProtocol (fun _ _ => True) v p

theorem conforms_demand {c : ComputeRequest} (allowed : startProtocol.Allowed v c) :
    Conforms v (demand c) :=
  Program.sat_call.2 ⟨allowed, fun _ => trivial⟩

theorem Conforms.demand_bind {α : Type} {c : ComputeRequest} {f : c.Answer → Starter α}
    (allowed : startProtocol.Allowed v c)
    (ok : ∀ a, Conforms (startProtocol.observe v c (.ok a)) (f a)) :
    Conforms v (demand c >>= f) :=
  Sat.call_bind allowed ok fun _ => trivial

theorem Conforms.then {α β : Type} {p : Starter α} {f : α → Starter β} (h : Conforms v p)
    (ok : ∀ t a, Conforms t (f a)) : Conforms v (p >>= f) :=
  Sat.bind h (fun t a _ => ok t a) fun _ _ _ => trivial

theorem recordStartFailure_conforms (id : String) (error : ConnectorError) :
    Conforms v (recordStartFailure id error) := by
  refine Conforms.demand_bind trivial fun read => ?_
  cases read with
  | none => trivial
  | some attempt =>
    refine iteInduction (fun _ => trivial) fun starting => ?_
    exact conforms_demand ⟨List.mem_cons_self, not_not.1 starting⟩

theorem requireCurrentStartConnection_conforms (id : String) :
    Conforms v (requireCurrentStartConnection id) := by
  refine Conforms.demand_bind trivial fun read => ?_
  cases read with
  | none => trivial
  | some attempt =>
    refine Conforms.demand_bind trivial fun revision => ?_
    split_ifs with changed inactive
    · exact (recordStartFailure_conforms _ _).then fun _ _ => trivial
    · trivial
    · trivial

theorem acceptStart_conforms (userId id : String) (result : StartResult) :
    Conforms v (acceptStart userId id result) := by
  refine Conforms.demand_bind trivial fun _ => ?_
  refine (requireCurrentStartConnection_conforms id).then fun t attempt => ?_
  refine Conforms.demand_bind trivial fun stored => ?_
  split_ifs with changed
  · trivial
  · refine Conforms.demand_bind trivial fun updated => ?_
    cases updated <;> trivial

theorem rejectButtonStart_conforms (attempt : DatabricksComputeAttempt) (error : ConnectorError) :
    Conforms v (rejectButtonStart attempt error) := by
  unfold rejectButtonStart
  split_ifs with uncertain
  · exact Conforms.demand_bind trivial fun _ => trivial
  · exact (recordStartFailure_conforms _ _).then fun _ _ => trivial

theorem rejectStart_conforms (attempt : DatabricksComputeAttempt) (error : ConnectorError) :
    Conforms v (rejectStart attempt error) := by
  refine (requireCurrentStartConnection_conforms _).then fun t current => ?_
  exact rejectButtonStart_conforms attempt error

/-- The attempt that a call has created is the one it knows. -/
theorem createComputeAttempt_sat (fresh : v.created = none ∧ v.asked = false) (userId : String)
    (c : ComputeCredentials) :
    Sat startProtocol (fun t r => ∀ a, r = .ok (a, true) → t.created = some a.id ∧ t.asked = false) v
      (createComputeAttempt userId c) := by
  unfold createComputeAttempt
  split_ifs with incomplete
  · exact fun a h => nomatch h
  · refine Sat.call_bind trivial (fun active => ?_) fun e a h => nomatch h
    cases active with
    | some active => exact fun a h => nomatch h
    | none =>
      refine Sat.call_bind fresh.1 (fun inserted => ?_) fun e a h => nomatch h
      cases inserted with
      | some attempt =>
        intro a h
        cases h
        exact ⟨rfl, fresh.2⟩
      | none =>
        refine Sat.call_bind trivial (fun active => ?_) fun e a h => nomatch h
        cases active with
        | some active => exact fun a h => nomatch h
        | none => exact fun a h => nomatch h

theorem startReserved_conforms (upper : String → String) (args : StartArgs)
    {attempt : DatabricksComputeAttempt} (ready : v.created = some attempt.id ∧ v.asked = false) :
    Conforms v (startReserved upper args attempt) := by
  refine Conforms.demand_bind trivial fun revision => ?_
  split_ifs with changed running
  · exact (recordStartFailure_conforms _ _).then fun _ _ => trivial
  · exact acceptStart_conforms _ _ _
  · have provider : Conforms v (askProvider attempt.id) := by
      refine Conforms.demand_bind trivial fun callable => ?_
      cases callable with
      | true => exact conforms_demand ready
      | false => trivial
    refine Conforms.then (Program.sat_attempt.2 provider) fun t outcome => ?_
    cases outcome with
    | ok result => exact acceptStart_conforms _ _ _
    | error e =>
      cases e with
      | connector error => exact rejectStart_conforms attempt error
      | runConflict | lookup | value | other => trivial

theorem reserveAndStart_conforms (upper : String → String) (args : StartArgs)
    (fresh : v.created = none ∧ v.asked = false) : Conforms v (reserveAndStart upper args) := by
  refine Sat.bind (createComputeAttempt_sat fresh _ _) ?_ fun _ _ _ => trivial
  rintro t ⟨attempt, created⟩ known
  have linked : Sat startProtocol (fun t' _ => t' = t) t (linkRun args attempt) := by
    unfold linkRun
    split_ifs
    · exact Program.sat_call.2 ⟨trivial, fun _ => rfl⟩
    · rfl
  refine Sat.bind linked ?_ fun _ _ _ => trivial
  rintro t' _ rfl
  cases created with
  | true => exact startReserved_conforms upper args (known attempt rfl)
  | false =>
    show Conforms t' (joinStart attempt)
    unfold joinStart
    split_ifs <;> trivial

theorem requestComputeStart_conforms (upper : String → String) (args : StartArgs)
    (fresh : v.created = none ∧ v.asked = false) : Conforms v (requestComputeStart upper args) := by
  have reserve : Conforms v (reserveAndStart upper args) :=
    reserveAndStart_conforms upper args fresh
  have enter : Conforms v (do
      let first ← demand .enterRun
      if first then reserveAndStart upper args
      else return {
        outcome := "already_starting"
        state := if args.observedState = "" then "UNKNOWN" else args.observedState
        kind := args.credentials.computeKind }) := by
    refine Conforms.demand_bind trivial fun first => ?_
    cases first with
    | true => exact reserve
    | false => trivial
  unfold requestComputeStart
  by_cases active : args.userActive
  · rw [if_neg (not_not_intro active)]
    refine iteInduction (fun _ => trivial) fun _ => ?_
    exact iteInduction (fun _ => enter) fun _ => reserve
  · rw [if_pos active]
    trivial

theorem startDatabricksComputeInThread_conforms (userId : String) (c : ComputeCredentials)
    (fresh : v.created = none ∧ v.asked = false) :
    Conforms v (startDatabricksComputeInThread userId c) := by
  refine Sat.bind (createComputeAttempt_sat fresh _ _) ?_ fun _ _ _ => trivial
  rintro t ⟨attempt, created⟩ known
  cases created with
  | false => trivial
  | true =>
    refine Conforms.demand_bind trivial fun revision => ?_
    split_ifs with changed
    · exact (recordStartFailure_conforms _ _).then fun _ _ => trivial
    · refine Conforms.demand_bind trivial fun callable => ?_
      cases callable with
      | false => trivial
      | true =>
        refine Conforms.then (Program.sat_attempt.2 (conforms_demand (known attempt rfl))) ?_
        intro u outcome
        cases outcome with
        | ok result => exact Conforms.demand_bind trivial fun _ => trivial
        | error e =>
          cases e with
          | connector error => exact rejectButtonStart_conforms attempt error
          | runConflict | lookup | value | other => trivial

theorem program_conforms (upper : String → String) (call : ComputeCall) :
    Conforms {} (call.program upper) := by
  cases call with
  | requestComputeStart args =>
    exact (requestComputeStart_conforms upper args ⟨rfl, rfl⟩).then fun _ _ => trivial
  | startDatabricksComputeInThread userId c =>
    exact (startDatabricksComputeInThread_conforms userId c ⟨rfl, rfl⟩).then fun _ _ => trivial
  | cancelComputeObservation | resumeComputeObservation | claimDueAttempt | observeAttempt =>
    exact Conforms.demand_bind trivial fun _ => trivial
  | recordStartSubmission | recordStartUncertain | replaceCredentials =>
    exact conforms_demand trivial
  | recordStartFailure id error => exact recordStartFailure_conforms id error

end Conformance

/-- The calls over the tables. -/
def computeWorkload (settings : StartupSettings) :
    Workload ComputeRequest.Answer Exn Unit StartView ComputeState ComputeCall ComputeOracle where
  protocol := startProtocol
  program := ComputeCall.program settings.upper
  view _ := {}
  serve o _ s c := some (s.serve settings o c)

/-- All interleavings of the calls, from an empty table. -/
def computeSystem (settings : StartupSettings) :=
  (computeWorkload settings).system fun s => s.attempts.rows = [] ∧ s.started = []

end DataMover
