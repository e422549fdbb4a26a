import DataMover.Databricks.Custody

/-!
# The connector follows the protocol

The specifications of the connector's functions under `custodyProtocol`.
-/

namespace DataMover

namespace Databricks

open Program (lift attempt Sat Returning)

/-! ## Sessions -/

section Sessions

variable {α : Type} {Q : View → Except Raised α → Prop} {s : View} {v : Custody}

/-- What the rest of a program makes of the outcome of a session's body. -/
def Closing (Q : View → Except Raised α → Prop) (s : View) : Except Raised α → Prop
  | .ok a => ∀ r, Q (custodyProtocol.observe s .closeSession r) (.ok a)
  | .error _ => ∀ r e status, Q (custodyProtocol.observe s .closeSession r)
      (.error (.connector e status))

theorem allowed_close (s : View) : custodyProtocol.Allowed s .closeSession := by
  cases s <;> trivial

theorem check_sat {x : Except Exn α} (ok : ∀ a, x = .ok a → Q s (.ok a))
    (error : ∀ e, Q s (.error e)) : Sat custodyProtocol Q s (check x) := by
  rcases x with e | a
  · cases e <;> exact error _
  · exact ok a rfl

theorem sqlCursor_sat {tags : Option QueryTags} {body : Publisher α}
    (opens : custodyProtocol.Allowed s (.openSession tags))
    (unopened : ∀ exc e status, Q (custodyProtocol.observe s (.openSession tags) (.error exc))
      (.error (.connector e status)))
    (runs : Sat custodyProtocol (Closing Q)
      (custodyProtocol.observe s (.openSession tags) (.ok ())) body) :
    Sat custodyProtocol Q s (sqlCursor tags body) := by
  refine Program.sat_bind.2 (Program.sat_attempt.2 (Program.sat_call.2 ⟨opens, fun r => ?_⟩))
  rcases r with exc | _
  · cases exc with
    | connector e status => exact unopened _ e status
    | provider exc => exact unopened _ _ _
  · refine Program.sat_bind.2 (Program.sat_attempt.2 (runs.mono fun u r hr => ?_))
    refine Program.sat_bind.2 (Program.sat_attempt.2
      (Program.sat_call.2 ⟨allowed_close u, fun c => ?_⟩))
    rcases r with exc | a
    · cases exc with
      | connector e status => exact hr c e status
      | provider exc => exact hr c _ _
    · exact hr c

end Sessions

/-! ## The functions of the writer -/

section Writer

variable {α : Type} {x : Context} {v : Custody} {target : DatabricksTable}

theorem Custody.unmarked (h : v.marked = false) : { v with marked := false } = v := by
  cases v
  cases h
  rfl

/-- A session without tags. -/
theorem plainSession_sat {Q : View → Except Raised α → Prop} {body : Publisher α}
    (unmarked : v.marked = false)
    (unopened : ∀ e status, Q (.worker v) (.error (.connector e status)))
    (runs : Sat custodyProtocol (Closing Q) (.worker v) body) :
    Sat custodyProtocol Q (.worker v) (sqlCursor none body) := by
  have same (r : Except Raised Unit) :
      custodyProtocol.observe (.worker v) (.openSession none) r = .worker v := by
    have marked : (r.isOk && Option.isSome (none : Option QueryTags)) = false := by
      cases r <;> rfl
    show View.worker { v with marked := r.isOk && Option.isSome (none : Option QueryTags) } = _
    rw [marked, Custody.unmarked unmarked]
  refine sqlCursor_sat (fun _ => nofun) (fun exc e status => ?_) ?_
  · rw [same]
    exact unopened e status
  · rw [same]
    exact runs

theorem owner_recorded {event : PublicationEvent} {ok : Bool} (h : v.owner = true) :
    (v.recorded event ok).owner = true := by
  simp [Custody.recorded, h]

/-- A program that only reads leaves the view as it was. -/
def Reads (v : Custody) (p : Publisher α) : Prop :=
  ∀ Q : View → Except Raised α → Prop, (∀ r, Q (.worker v) r) → Sat custodyProtocol Q (.worker v) p

theorem Reads.check (v : Custody) (y : Except Exn α) : Reads v (check y) :=
  fun _ h => check_sat (fun _ _ => h _) fun _ => h _

theorem Reads.bind {β : Type} {p : Publisher α} {f : α → Publisher β} (h : Reads v p)
    (rest : ∀ a, Reads v (f a)) : Reads v (p >>= f) := by
  intro Q all
  refine Program.sat_bind.2 (h _ fun r => ?_)
  cases r with
  | ok a => exact rest a Q all
  | error e => exact all _

theorem Reads.call (c : DatabricksCall) (allowed : v.Allows c) (same : ∀ r, v.observe c r = v) :
    Reads v (Databricks.call c) := by
  intro Q all
  refine Program.sat_call.2 ⟨allowed, fun r => ?_⟩
  show Q (View.worker (v.observe c r)) r
  rw [same r]
  exact all r

theorem Reads.sqlCursor {body : Publisher α} (unmarked : v.marked = false) (h : Reads v body) :
    Reads v (sqlCursor none body) := by
  intro Q all
  refine plainSession_sat unmarked (fun _ _ => all _) (h _ fun r => ?_)
  have closed (r : Except Raised Unit) :
      custodyProtocol.observe (.worker v) .closeSession r = .worker v :=
    congrArg View.worker (Custody.unmarked unmarked)
  cases r with
  | ok a => exact fun r => (closed r).symm ▸ all _
  | error e => exact fun r e status => (closed r).symm ▸ all _

theorem reads_tableRows (unmarked : v.marked = false) : Reads v (tableRows target) := by
  refine (Reads.sqlCursor unmarked
    (Reads.call (.tableRows target) trivial fun _ => rfl)).bind fun rows => ?_
  split
  · exact Reads.check v _
  · exact Reads.check v (.ok rows)

theorem reads_validateTarget (unmarked : v.marked = false) {output : List ColumnSchema}
    {policy : WriteMode} {objectId fingerprint : String} :
    Reads v (validateTarget x target output policy objectId fingerprint) := by
  refine (Reads.check v _).bind fun _ => ?_
  simp only
  refine (reads_tableRows unmarked).bind fun rows => ?_
  split
  · exact Reads.check v _
  · split
    · exact Reads.check v _
    · have tags : Reads v (destinationTags target) := by
        refine Reads.sqlCursor unmarked
          ((Reads.call (.schemaRows target) trivial fun _ => rfl).bind fun rows => ?_)
        split
        · exact Reads.check v _
        · exact Reads.call (.readTags target) trivial fun _ => rfl
      refine tags.bind fun tags => ?_
      split
      · exact Reads.check v _
      · split
        · exact Reads.check v (.ok _)
        · exact (Reads.call (.inspectObject target) trivial fun _ => rfl).bind fun current =>
            (Reads.check v _).bind fun _ => Reads.check v (.ok _)

theorem reads_isServerlessWarehouse {onWarehouse : Bool} :
    Reads v (isServerlessWarehouse onWarehouse) := by
  unfold isServerlessWarehouse
  split
  · exact Reads.check v (.ok _)
  · have asked : Reads v (attempt (call .enableServerlessCompute)) :=
      fun Q all => Program.sat_attempt.2
        (Reads.call (v := v) .enableServerlessCompute trivial (fun _ => rfl) _ fun _ => all _)
    refine asked.bind fun answer => ?_
    rcases answer with (exc | ⟨e, status⟩) | _ | serverless
    · exact fun Q all => all _
    · exact fun Q all => all _
    · exact Reads.check v _
    · exact Reads.check v (.ok _)

/-- How a worker is commissioned. -/
structure Commissioned (x : Context) (order : Commission) : Prop where
  runId : x.runId = order.runId
  staging : ∀ schema, stagingSchemaOf x.stagingSchema = .ok schema →
    order.staging = stagingName schema x.runId
  target : order.target = x.destination.databricks?.bind fun table => (qualified table).toOption
  targetKey : order.targetKey = x.destination.databricks?.map x.targetKey

theorem Commissioned.of_eq {order order' : Commission} (h : Commissioned x order)
    (same : order' = order) : Commissioned x order' :=
  same ▸ h

/-- An event that may come next, or that concerns another run, is recorded or raises. -/
theorem recordEvent_sat {Q : View → Except Raised Unit → Prop} {runId staging : String}
    {event : PublicationEvent} (commissioned : Commissioned x v.order)
    (records : runId = x.runId → v.Records event)
    (refused : ∀ e status, Q (.worker v) (.error (.connector e status)))
    (ok : runId = x.runId → Q (.worker (v.recorded event true)) (.ok ()))
    (error : runId = x.runId → ∀ e status,
      Q (.worker (v.recorded event false)) (.error (.connector e status))) :
    Sat custodyProtocol Q (.worker v) (recordEvent x target runId event staging) := by
  unfold recordEvent
  split
  · exact refused _ _
  · rename_i same
    have destination : x.destination = .databricksTable target :=
      by_contra fun ne => same (.inr ne)
    have keyed : v.order.targetKey = some (x.targetKey target) := by
      rw [commissioned.targetKey, destination]
      rfl
    have same : runId = x.runId := by_contra fun ne => same (.inl ne)
    refine Program.sat_bind.2 (Program.sat_attempt.2
      (Program.sat_call.2 ⟨⟨commissioned.runId, keyed, records same⟩, fun r => ?_⟩))
    rcases r with exc | _
    · cases exc with
      | connector e status => exact error same e status
      | provider exc => exact error same _ _
    · exact ok same

theorem recordQuietly_sat {Q : View → Except Raised Bool → Prop} {runId : String}
    {event : PublicationEvent} (commissioned : Commissioned x v.order)
    (records : runId = x.runId → v.Records event) (refused : Q (.worker v) (.ok false))
    (recorded : ∀ ok, Q (.worker (v.recorded event ok)) (.ok ok)) :
    Sat custodyProtocol Q (.worker v) (recordQuietly x target runId event) :=
  Program.sat_bind.2 (Program.sat_attempt.2 (recordEvent_sat commissioned records (fun _ _ => refused)
    (fun _ => recorded true) fun _ _ _ => recorded false))

/-- One statement in a session without a mark. -/
theorem execute_sat {Q : View → Except Raised Unit → Prop} {s : Statement}
    (unmarked : v.marked = false) (executes : v.Executes s)
    (unopened : ∀ e status, Q (.worker v) (.error (.connector e status)))
    (ok : Q (.worker { v.executed s true with marked := false }) (.ok ()))
    (error : ∀ e status, Q (.worker { v.executed s false with marked := false })
      (.error (.connector e status))) :
    Sat custodyProtocol Q (.worker v) (sqlCursor none (call (.execute s))) := by
  refine plainSession_sat unmarked unopened (Program.sat_call.2 ⟨executes, fun r => ?_⟩)
  cases r with
  | ok a => exact fun _ => ok
  | error e => exact fun _ e status => error e status

/-- A later view of the same worker, between two calls of it. -/
structure Follows (v v' : Custody) : Prop where
  order : v'.order = v.order
  unmarked : v'.marked = false
  worker : v'.worker = v.worker

theorem Follows.trans {u v w : Custody} (h : Follows u v) (k : Follows v w) : Follows u w :=
  ⟨k.order.trans h.order, k.unmarked, k.worker.trans h.worker⟩

theorem Follows.recorded (unmarked : v.marked = false) (event : PublicationEvent) (ok : Bool) :
    Follows v (v.recorded event ok) :=
  ⟨rfl, unmarked, rfl⟩

theorem Follows.executed (v : Custody) (s : Statement) (ok : Bool) :
    Follows v { v.executed s ok with marked := false } := by
  cases s <;> exact ⟨rfl, rfl, rfl⟩

/-- A postcondition on the view of a worker. -/
def OfWorker {α : Type} (Q : Custody → Except Raised α → Prop) : View → Except Raised α → Prop
  | .worker v, r => Q v r
  | .pass _, _ => False

/-- The load that the connector keeps for a run, while it is not submitted or not concluded. -/
structure Loaded (x : Context) (order : Commission) (st : StagedLoad) : Prop where
  stagingName : st.stagingName = order.staging
  destination : x.destination = .databricksTable st.locator
  mode : publishMode st.policy = order.mode

/-- What `prepare_destination` leaves when it returns. -/
structure Opened (x : Context) (v : Custody) (schema : ObjectSchema) (session : LoadSession)
    (st : StagedLoad) : Prop where
  session : runIdOf session = x.runId
  owner : v.owner = true
  phase : v.phase = .staged
  table : v.table = .holds []
  loaded : Loaded x v.order st
  columns : st.columns = schema.names
  unsubmitted : st.publishSubmitted = false

theorem prepareDestination_sat {loads : StagedLoads} {schema : ObjectSchema} {policy : WritePolicy}
    {runId : String} (commissioned : Commissioned x v.order) (fresh : v.phase = .start)
    (unmarked : v.marked = false) (unsent : v.sent = none)
    (mode : publishMode policy.mode = v.order.mode) :
    Sat custodyProtocol (OfWorker fun v' r => Follows v v' ∧ v'.sent = none ∧
      ∀ session loads', r = .ok (session, loads') → ∃ st, Opened x v' schema session st ∧
        loads' = Function.update loads x.runId (some st))
      (.worker v) (prepareDestination x loads schema policy runId) := by
  have refused (v' : Custody) (follows : Follows v v') (unsent : v'.sent = none) (e : Raised) :
      OfWorker (fun v' r => Follows v v' ∧ v'.sent = none ∧
        ∀ session loads', r = .ok (session, loads') → ∃ st, Opened x v' schema session st ∧
          loads' = Function.update loads x.runId (some st))
        (.worker v') (.error e : Except Raised (LoadSession × StagedLoads)) :=
    ⟨follows, unsent, nofun⟩
  have stays : Follows v v := ⟨rfl, unmarked, rfl⟩
  unfold prepareDestination
  split
  · exact check_sat nofun fun _ => refused v stays unsent _
  refine Program.sat_bind.2 (check_sat (fun target found => ?_) fun e => refused v stays unsent e)
  refine Program.sat_bind.2 (check_sat (fun _ _ => ?_) fun e => refused v stays unsent e)
  split
  · exact check_sat nofun fun _ => refused v stays unsent _
  refine Program.sat_bind.2 (check_sat (fun staging hs => ?_) fun e => refused v stays unsent e)
  -- the record comes before everything that follows
  refine Program.sat_bind.2 (recordEvent_sat commissioned
    (fun _ => ⟨by rw [fresh]; rfl, fun ne => absurd rfl ne, trivial⟩)
    (fun e status => refused v stays unsent _) (fun same => ?_)
    fun same e status => refused _ (.recorded unmarked _ _) unsent _)
  subst same
  set v₁ := v.recorded .prepareStarted true with hv₁
  have follows₁ : Follows v v₁ := .recorded unmarked _ _
  have phase₁ : v₁.phase = .prepared := by
    show (v.phase.next .prepareStarted).getD .stopped = .prepared
    rw [fresh]
    rfl
  have owner₁ : v₁.owner = true := by simp [hv₁, Custody.recorded]
  have unsent₁ : v₁.sent = none := unsent
  show Sat custodyProtocol _ (.worker v₁) _
  split
  · exact check_sat nofun fun _ => refused v₁ follows₁ unsent₁ _
  refine Program.sat_bind.2 (reads_validateTarget follows₁.unmarked _ fun r => ?_)
  rcases r with e | ⟨existed, current⟩
  · exact refused v₁ follows₁ unsent₁ e
  refine Program.sat_bind.2 (check_sat (fun declarations _ => ?_)
    fun e => refused v₁ follows₁ unsent₁ e)
  have name : stagingName staging x.runId = v₁.order.staging :=
    (commissioned.staging staging hs).symm
  rw [name]
  have failed (v₂ : Custody) (follows₂ : Follows v v₂) (owner : v₂.owner = true)
      (phase : v₂.phase = .prepared) (unsent₂ : v₂.sent = none) (exc : Raised) :
      Sat custodyProtocol (OfWorker fun v' r => Follows v v' ∧ v'.sent = none ∧
        ∀ session loads', r = .ok (session, loads') → ∃ st, Opened x v' schema session st ∧
          loads' = Function.update loads x.runId (some st)) (.worker v₂) (do
        let _ ← recordQuietly x target x.runId
          (.abortUncertain (some (exc.safeError "private staging creation")))
        .throw (exc.wrapped "private staging creation" true)) := by
    refine Program.sat_bind.2 (recordQuietly_sat (commissioned.of_eq follows₂.order)
      (fun _ => ⟨by rw [phase]; rfl, fun _ => owner, trivial⟩)
      (refused v₂ follows₂ unsent₂ _)
      fun ok => refused _ (follows₂.trans (.recorded follows₂.unmarked _ _)) unsent₂ _)
  refine Program.sat_bind.2 (Program.sat_attempt.2 (execute_sat follows₁.unmarked
    ⟨owner₁, phase₁, follows₁.unmarked, rfl⟩
    (fun e status => failed v₁ follows₁ owner₁ phase₁ unsent₁ _) ?_
    fun e status => failed _
      (follows₁.trans (.executed v₁ (.createStaging v₁.order.staging declarations) false))
      owner₁ phase₁ unsent₁ _))
  set v₂ : Custody := { v₁.executed (.createStaging v₁.order.staging declarations) true with
    marked := false } with hv₂
  have follows₂ : Follows v v₂ := follows₁.trans (.executed ..)
  refine Program.sat_bind.2 (recordEvent_sat (commissioned.of_eq follows₂.order)
    (fun _ => ⟨by show (v₁.phase.next .stagingReady).isSome = true; rw [phase₁]; rfl,
      fun _ => owner₁, trivial⟩)
    (fun e status => refused v₂ follows₂ unsent₁ _) (fun _ => ?_)
    fun _ e status => refused _ (follows₂.trans (.recorded follows₂.unmarked _ _)) unsent₁ _)
  have destination : x.destination = .databricksTable target := by
    unfold databricksLocator at found
    generalize hd : x.destination = destination at found
    cases destination <;> cases found
    rfl
  refine ⟨follows₂.trans (.recorded follows₂.unmarked _ _), unsent₁, ?_⟩
  rintro session loads' ⟨⟩
  refine ⟨_, ⟨rfl, ?_, ?_, rfl, ⟨rfl, destination, mode⟩, rfl, rfl⟩, rfl⟩
  · show (v₁.owner || _) = true
    rw [owner₁]
    rfl
  · show (v₁.phase.next .stagingReady).getD .stopped = .staged
    rw [phase₁]
    rfl

/-! ### Batches -/

theorem flatten_slices {β : Type} {size : Nat} (positive : 0 < size) (rows : List β) :
    (slices size rows).flatten = rows := by
  suffices parts : ∀ n, ((List.range n).map fun k => (rows.drop (size * k)).take size).flatten =
      rows.take (size * n) by
    rw [slices, parts, List.take_of_length_le]
    have := Nat.div_add_mod (rows.length + size - 1) size
    have := Nat.mod_lt (rows.length + size - 1) positive
    omega
  intro n
  induction n with
  | zero => simp
  | succ n ih =>
    rw [List.range_succ, List.map_append, List.flatten_append, ih, Nat.mul_succ, List.take_add]
    simp

theorem insertAll_sat {Q : View → Except Raised Unit → Prop} {columns : List String}
    {parts : List (List Row)} {before : List Row} (owner : v.owner = true)
    (phase : v.phase = .staged) (unmarked : v.marked = false) (table : v.table = .holds before)
    (ok : Q (.worker { v with table := .holds (before ++ parts.flatten) }) (.ok ()))
    (error : ∀ table e, Q (.worker { v with table }) (.error e)) :
    Sat custodyProtocol Q (.worker v) (insertAll v.order.staging columns parts) := by
  induction parts generalizing v before with
  | nil =>
    rw [List.flatten_nil, List.append_nil, ← table] at ok
    exact ok
  | cons rows rest ih =>
    have inserted (ok : Bool) : v.executed (.insertValues v.order.staging columns rows) ok =
        { v with table := if ok then .holds (before ++ rows) else .unknown } := by
      simp only [Custody.executed, table]
    refine Program.Sat.call_bind ⟨owner, phase, unmarked, rfl⟩ (fun _ => ?_) fun e => ?_
    · show Sat custodyProtocol Q
        (View.worker (v.executed (.insertValues v.order.staging columns rows) true)) _
      rw [inserted]
      refine ih (v := { v with table := .holds (before ++ rows) }) owner phase unmarked rfl ?_ error
      rw [List.append_assoc]
      exact ok
    · show Q (View.worker (v.executed (.insertValues v.order.staging columns rows) false)) _
      rw [inserted]
      exact error _ e

/-- Between two batches everything that was written is staged. -/
structure Filled (x : Context) (v : Custody) (st : StagedLoad) (rows : List Row) : Prop where
  owner : v.owner = true
  phase : v.phase = .staged
  table : v.table = .holds rows
  unsent : v.sent = none
  loaded : Loaded x v.order st
  unsubmitted : st.publishSubmitted = false

/-- What is left of a load once something has failed. -/
structure Remains (x : Context) (v : Custody) (st : StagedLoad) : Prop where
  owner : v.owner = true
  loaded : Loaded x v.order st
  submitted : st.publishSubmitted = true → v.phase = .submitted
  unsubmitted : st.publishSubmitted = false →
    (v.phase = .staged ∨ v.phase = .aborting) ∧ v.sent = none

theorem Filled.remains {st : StagedLoad} {rows : List Row} (h : Filled x v st rows) :
    Remains x v st where
  owner := h.owner
  loaded := h.loaded
  submitted hs := absurd (hs.symm.trans h.unsubmitted) (by decide)
  unsubmitted _ := ⟨.inl h.phase, h.unsent⟩

/-- How `write_batch` ends. -/
inductive Written (x : Context) (v : Custody) (loads : StagedLoads) (st : StagedLoad)
    (rows : List Row) : Custody → Except Raised BatchWriteResult × StagedLoads → Prop
  | accepted {v' : Custody} {st' : StagedLoad} {result : BatchWriteResult} (follows : Follows v v')
      (filled : Filled x v' st' rows) (columns : st'.columns = st.columns)
      (timestampNtzColumns : st'.timestampNtzColumns = st.timestampNtzColumns) :
      Written x v loads st rows v' (.ok result, Function.update loads x.runId (some st'))
  | refused {v' : Custody} {loads' : StagedLoads} {st' : StagedLoad} {exc : Raised}
      (follows : Follows v v') (unsent : v'.sent = none) (kept : loads' x.runId = some st')
      (remains : Remains x v' st') : Written x v loads st rows v' (.error exc, loads')

theorem writeRows_sat {loads : StagedLoads} {session : LoadSession} {batch : TransferBatch}
    {st : StagedLoad} {rows : List Row} (commissioned : Commissioned x v.order)
    (unmarked : v.marked = false) (own : runIdOf session = x.runId)
    (kept : loads x.runId = some st) (filled : Filled x v st rows) :
    Sat custodyProtocol (OfWorker fun v' r => ∃ ends, r = .ok ends ∧ Written x v loads st
        (rows ++ insertedRows st.columns st.timestampNtzColumns batch.frame) v' ends)
      (.worker v) (writeRows x loads session batch) := by
  have refused {v' : Custody} (follows : Follows v v') (unsent : v'.sent = none)
      (remains : Remains x v' st) (exc : Raised) :
      OfWorker (fun v' r => ∃ ends, r = .ok ends ∧ Written x v loads st
        (rows ++ insertedRows st.columns st.timestampNtzColumns batch.frame) v' ends) (.worker v')
        (.ok (.error exc, loads) : Except Raised (Except Raised BatchWriteResult × StagedLoads)) :=
    ⟨_, rfl, .refused follows unsent kept remains⟩
  have stays : Follows v v := ⟨rfl, unmarked, rfl⟩
  unfold writeRows
  refine Program.sat_bind.2 (Program.sat_attempt.2 ?_)
  have found : loadStateOf loads session = pure st := by
    unfold loadStateOf
    rw [own, kept]
  rw [found]
  show Sat custodyProtocol _ _ (ite _ _ _)
  split
  · exact check_sat nofun fun _ => refused stays filled.unsent filled.remains _
  refine Program.sat_bind.2 (check_sat (fun _ _ => ?_) fun e =>
    refused stays filled.unsent filled.remains e)
  refine Program.sat_bind.2 (check_sat (fun _ _ => ?_) fun e =>
    refused stays filled.unsent filled.remains e)
  refine Program.sat_bind.2 (Program.sat_attempt.2 (plainSession_sat unmarked
    (fun e status => refused stays filled.unsent filled.remains _) ?_))
  rw [filled.loaded.stagingName]
  refine insertAll_sat filled.owner filled.phase unmarked filled.table ?_ ?_
  · rw [flatten_slices (by decide)]
    intro _
    -- all rows are staged, and this is recorded
    set v₁ : Custody := { v with
      table := .holds (rows ++ insertedRows st.columns st.timestampNtzColumns batch.frame)
      marked := false } with hv₁
    have follows₁ : Follows v v₁ := ⟨rfl, rfl, rfl⟩
    set st' : StagedLoad := { st with
      rows := st.rows + batch.rowCount, bytes := st.bytes + batch.byteCount } with hst'
    have loaded' : Loaded x v.order st' := ⟨filled.loaded.1, filled.loaded.2, filled.loaded.3⟩
    have update : Function.update loads (runIdOf session) (some st') x.runId = some st' := by
      rw [own, Function.update_self]
    have phase (ok : Bool) : (v₁.recorded (.batchWritten st'.rows st'.bytes) ok).phase =
        if ok then .staged else .aborting := by
      cases ok
      · rfl
      · show (v.phase.next _).getD .stopped = .staged
        rw [filled.phase]
        rfl
    have lost (e : ConnectorError) (status : Option Nat) (v' : Custody) (follows : Follows v v')
        (unsent : v'.sent = none) (remains : Remains x v' st') :
        OfWorker (fun v' r => ∃ ends, r = .ok ends ∧ Written x v loads st
          (rows ++ insertedRows st.columns st.timestampNtzColumns batch.frame) v' ends) (.worker v')
          (.ok (.error (.connector e status), Function.update loads (runIdOf session) (some st')) :
            Except Raised (Except Raised BatchWriteResult × StagedLoads)) :=
      ⟨_, rfl, .refused follows unsent update remains⟩
    refine Program.sat_bind.2 (Program.sat_attempt.2 (recordEvent_sat (commissioned.of_eq follows₁.order)
      (fun _ => ⟨by show (v.phase.next _).isSome = true; rw [filled.phase]; rfl,
        fun _ => filled.owner, trivial⟩)
      (fun e status => lost e status v₁ follows₁ filled.unsent
        ⟨filled.owner, loaded', filled.remains.submitted, filled.remains.unsubmitted⟩)
      (fun _ => ?_) fun _ e status => lost e status _ (follows₁.trans (.recorded rfl _ _))
        filled.unsent ⟨?_, loaded', fun hs => ?_, fun _ => ⟨.inr (phase false), filled.unsent⟩⟩))
    · refine ⟨_, rfl, ?_⟩
      rw [own]
      exact .accepted (follows₁.trans (.recorded rfl _ _))
        ⟨owner_recorded filled.owner, phase true, rfl, filled.unsent, loaded',
          filled.unsubmitted⟩ rfl rfl
    · exact owner_recorded filled.owner
    · exact absurd (hs.symm.trans filled.unsubmitted) (by decide)
  · intro table exc _ e status
    exact refused (⟨rfl, rfl, rfl⟩ : Follows v { v with table, marked := false }) filled.unsent
      ⟨filled.owner, filled.loaded, filled.remains.submitted, filled.remains.unsubmitted⟩ _

/-! ### The publication -/

/-- How `finalize` ends. -/
inductive Finalized (x : Context) (v : Custody) (loads : StagedLoads) :
    Custody → Except Raised DestinationManifest × StagedLoads → Prop
  | published {v' : Custody} {loads' : StagedLoads} {manifest : DestinationManifest}
      (follows : Follows v v') (sent : v'.sent = some true) (gone : loads' x.runId = none) :
      Finalized x v loads v' (.ok manifest, loads')
  | raised {v' : Custody} {loads' : StagedLoads} {st' : StagedLoad} {exc : Raised}
      (follows : Follows v v') (kept : loads' x.runId = some st') (remains : Remains x v' st') :
      Finalized x v loads v' (.error exc, loads')

/-- What `finalize` prepares before it opens its session. -/
theorem preparePublication_sat {loads : StagedLoads} {session : LoadSession} {st : StagedLoad}
    {Q : View → Except Raised (StagedLoad × Bool × Statement) → Prop}
    (commissioned : Commissioned x v.order) (unmarked : v.marked = false)
    (own : runIdOf session = x.runId) (kept : loads x.runId = some st) (loaded : Loaded x v.order st)
    (error : ∀ e, Q (.worker v) (.error e))
    (ok : ∀ serverless comment mode target, v.order.target = some target →
      v.order.mode = some mode →
      Q (.worker v) (.ok (st, serverless, .publish comment mode target st.columns st.stagingName))) :
    Sat custodyProtocol Q (.worker v) (preparePublication x loads session) := by
  have found : loadStateOf loads session = pure st := by
    unfold loadStateOf
    rw [own, kept]
  unfold preparePublication
  rw [found]
  show Sat custodyProtocol Q (View.worker v) (validateTarget _ _ _ _ _ _ >>= _)
  refine Program.sat_bind.2 (reads_validateTarget unmarked _ fun r => ?_)
  rcases r with e | _
  · exact error e
  refine Program.sat_bind.2 (check_sat (fun target named => ?_) fun e => error e)
  refine Program.sat_bind.2 (check_sat (fun _ _ => ?_) fun e => error e)
  have target' : v.order.target = some target := by
    rw [commissioned.target, loaded.destination]
    show (qualified st.locator).toOption = some target
    rw [named]
    rfl
  cases hm : publishMode st.policy with
  | none => exact check_sat nofun fun e => error e
  | some mode =>
    refine Program.sat_bind.2 (reads_isServerlessWarehouse _ fun r => ?_)
    rcases r with e | serverless
    · exact error e
    · exact ok serverless _ mode target target' (loaded.mode.symm.trans hm)

/-- What holds between the record of the submission and the end of the submitting session. -/
structure Submitted (v v' : Custody) : Prop where
  follows : Follows v v'
  owner : v'.owner = true
  phase : v'.phase = .submitted

/-- How the submission ends. -/
def Submits (x : Context) (v : Custody) (st : StagedLoad) (v' : Custody) :
    Except Raised (Except Raised Unit) → Prop
  | .error _ => Follows v v' ∧ Remains x v' st
  | .ok outcome => Submitted v v' ∧ v'.sent = some outcome.isOk

theorem submitPublication_sat {st : StagedLoad} {rows : List Row} {serverless : Bool}
    {comment target : String} {mode : PublishMode} {columns : List String}
    (commissioned : Commissioned x v.order) (filled : Filled x v st rows)
    (images : v.order.Images v.worker.extraction rows)
    (ht : v.order.target = some target) (hm : v.order.mode = some mode) :
    Sat custodyProtocol (OfWorker (Submits x v st)) (.worker v) (submitPublication x st x.runId
      serverless (.publish comment mode target columns st.stagingName)) := by
  refine sqlCursor_sat (fun tags ht => ?_) (fun exc e status => ⟨⟨rfl, rfl, rfl⟩, filled.owner,
    filled.loaded, filled.remains.submitted, filled.remains.unsubmitted⟩) ?_
  · split at ht
    · cases ht
      exact ⟨_, by rw [← commissioned.runId]⟩
    · cases ht
  -- from here on the session carries the mark of the run
  have submits (v₁ : Custody) (order : v₁.order = v.order) (worker : v₁.worker = v.worker)
      (filled₁ : Filled x v₁ st rows) :
      Sat custodyProtocol (Closing (OfWorker (Submits x v st))) (.worker v₁) (do
        recordEvent x st.locator x.runId .publishSubmitted
        attempt (call (.execute (.publish comment mode target columns st.stagingName)))) := by
    have next : (v₁.phase.next .publishSubmitted).isSome := by
      rw [filled₁.phase]
      rfl
    refine Program.sat_bind.2 (recordEvent_sat (commissioned.of_eq order)
      (fun _ => ⟨next, fun _ => filled₁.owner, rows, filled₁.table, order ▸ worker ▸ images⟩)
      (fun e status _ e status => ⟨⟨order, rfl, worker⟩, filled₁.owner, filled₁.loaded,
        filled₁.remains.submitted, filled₁.remains.unsubmitted⟩)
      (fun _ => ?_) fun _ e status _ e status => ⟨⟨order, rfl, worker⟩, owner_recorded filled₁.owner,
        filled₁.loaded, fun h => absurd (h.symm.trans filled₁.unsubmitted) nofun,
        fun _ => ⟨.inr rfl, filled₁.unsent⟩⟩)
    have phase : (v₁.recorded .publishSubmitted true).phase = .submitted := by
      simp only [Custody.recorded, filled₁.phase]
      rfl
    refine Program.sat_attempt.2 (Program.sat_call.2 ⟨⟨owner_recorded filled₁.owner, phase,
      filled₁.unsent, filled₁.loaded.stagingName, ?_, ?_, rows, filled₁.table, ?_⟩, fun r => ?_⟩)
    · exact (congrArg _ order).trans ht
    · exact (congrArg _ order).trans hm
    · exact order ▸ worker ▸ images
    · exact fun _ => ⟨⟨⟨order, rfl, worker⟩, owner_recorded filled₁.owner, phase⟩, rfl⟩
  cases serverless with
  | true =>
    exact Program.sat_bind.2 (Program.sat_pure.2 (submits { v with marked := true } rfl rfl
      ⟨filled.owner, filled.phase, filled.table, filled.unsent, filled.loaded, filled.unsubmitted⟩))
  | false =>
    refine Program.Sat.call_bind ⟨filled.owner, filled.phase, commissioned.runId⟩ (fun _ => ?_)
      fun e _ e status => ⟨⟨rfl, rfl, rfl⟩, filled.owner, filled.loaded, filled.remains.submitted,
        filled.remains.unsubmitted⟩
    exact submits { v with marked := true } rfl rfl ⟨filled.owner, filled.phase, filled.table,
      filled.unsent, filled.loaded, filled.unsubmitted⟩

theorem publish_sat {loads : StagedLoads} {session : LoadSession} {st : StagedLoad}
    {rows : List Row} (commissioned : Commissioned x v.order) (unmarked : v.marked = false)
    (own : runIdOf session = x.runId) (kept : loads x.runId = some st) (filled : Filled x v st rows)
    (images : v.order.Images v.worker.extraction rows) :
    Sat custodyProtocol (OfWorker fun v' r => ∃ ends, r = .ok ends ∧ Finalized x v loads v' ends)
      (.worker v) (publish x loads session) := by
  unfold publish
  rw [own]
  refine Program.sat_bind.2 (Program.sat_attempt.2 (preparePublication_sat commissioned unmarked own
    kept filled.loaded
    (fun e => ⟨_, rfl, .raised ⟨rfl, unmarked, rfl⟩ kept filled.remains⟩)
    fun serverless comment mode target ht hm => ?_))
  refine Program.sat_bind.2 (Program.sat_attempt.2 ((submitPublication_sat commissioned filled images
    ht hm).mono ?_))
  rintro (v₁ | w) r good
  swap
  · exact good.elim
  rcases r with exc | outcome
  · exact ⟨_, rfl, .raised good.1 kept good.2⟩
  obtain ⟨⟨follows, owner, phase⟩, sent⟩ := good
  set st' : StagedLoad := { st with publishSubmitted := true } with hst'
  have kept' : Function.update loads x.runId (some st') x.runId = some st' := Function.update_self ..
  have remains {v' : Custody} (order : v'.order = v.order) (owner : v'.owner = true)
      (phase : v'.phase = .submitted) : Remains x v' st' :=
    ⟨owner, ⟨order ▸ filled.loaded.1, filled.loaded.2, order ▸ filled.loaded.3⟩, fun _ => phase, nofun⟩
  rcases outcome with exc | _
  · -- the outcome of the statement is unknown
    refine Program.sat_bind.2 (recordQuietly_sat (commissioned.of_eq follows.order)
      (fun _ => ⟨by rw [phase]; rfl, fun _ => owner, trivial⟩)
      ⟨_, rfl, .raised follows kept' (remains follows.order owner phase)⟩ fun ok => ?_)
    refine ⟨_, rfl, .raised (follows.trans (.recorded follows.unmarked _ _)) kept'
      (remains follows.order (owner_recorded owner) ?_)⟩
    simp only [Custody.recorded, phase]
    cases ok <;> rfl
  · refine Program.sat_bind.2 (Program.sat_attempt.2 (recordEvent_sat (commissioned.of_eq follows.order)
      (fun _ => ⟨by rw [phase]; rfl, fun _ => owner, sent⟩)
      (fun e status => ⟨_, rfl, .raised follows kept' (remains follows.order owner phase)⟩)
      (fun _ => ?_) fun _ e status => ⟨_, rfl, .raised (follows.trans (.recorded follows.unmarked _ _))
        kept' (remains follows.order (owner_recorded owner) rfl)⟩))
    set v₂ := v₁.recorded .committed true with hv₂
    have follows₂ : Follows v v₂ := follows.trans (.recorded follows.unmarked _ _)
    have phase₂ : v₂.phase = .published := by
      simp only [hv₂, Custody.recorded, phase]
      rfl
    have owner₂ : v₂.owner = true := owner_recorded owner
    have sent₂ : v₂.sent = some true := sent
    -- the cleanup does not change the result
    have concludes (v₃ : Custody) (follows₃ : Follows v v₃) (sent₃ : v₃.sent = some true)
        (owner₃ : v₃.owner = true) (phase₃ : v₃.phase = .published) (dropped : Bool)
        (gone : dropped = true → v₃.table = .gone) (manifest : Bool → DestinationManifest) :
        Sat custodyProtocol (OfWorker fun v' r => ∃ ends, r = .ok ends ∧ Finalized x v loads v' ends)
          (.worker v₃) (do
            let recorded ← recordQuietly x st.locator x.runId
              (if dropped then .cleanupConfirmed else .cleanupPending)
            return (.ok (manifest recorded), Function.update
              (Function.update loads x.runId (some st')) x.runId none)) := by
      have published (v' : Custody) (follows : Follows v v') (sent : v'.sent = some true) (b : Bool) :
          Finalized x v loads v' (.ok (manifest b), Function.update
            (Function.update loads x.runId (some st')) x.runId none) :=
        .published follows sent (Function.update_self ..)
      refine Program.sat_bind.2 (recordQuietly_sat (commissioned.of_eq follows₃.order) (fun _ => ?_)
        ⟨_, rfl, published v₃ follows₃ sent₃ _⟩
        fun ok => ⟨_, rfl, published _ (follows₃.trans (.recorded follows₃.unmarked _ _)) sent₃ _⟩)
      cases dropped with
      | true => exact ⟨by rw [phase₃]; rfl, fun _ => owner₃, gone rfl⟩
      | false => exact ⟨by rw [phase₃]; rfl, fun _ => owner₃, trivial⟩
    refine Program.sat_bind.2 (Program.sat_attempt.2 ?_)
    unfold dropStaging
    rw [filled.loaded.stagingName, ← follows₂.order]
    refine execute_sat follows₂.unmarked ⟨owner₂, follows₂.unmarked, rfl⟩
      (fun e status => concludes v₂ follows₂ sent₂ owner₂ phase₂ false nofun _)
      (concludes _ (follows₂.trans (.executed v₂ (.dropIfExists v₂.order.staging) true)) sent₂ owner₂
        phase₂ true (fun _ => rfl) _)
      fun e status => concludes _
        (follows₂.trans (.executed v₂ (.dropIfExists v₂.order.staging) false)) sent₂ owner₂ phase₂
        false nofun _

/-- How `abort` ends. -/
inductive Abandoned (x : Context) (v : Custody) (loads : StagedLoads) :
    Custody → Except Raised AbortResult × StagedLoads → Prop
  | rolledBack {v' : Custody} {loads' : StagedLoads} (follows : Follows v v')
      (unsent : v.sent = none) (sent : v'.sent = v.sent) (gone : loads' x.runId = none) :
      Abandoned x v loads v' (.ok .rolledBack, loads')
  | uncertain {v' : Custody} {r : Except Raised AbortResult} (follows : Follows v v')
      (certain : r ≠ .ok .rolledBack) (sent : v'.sent = v.sent)
      (remains : ∀ st, loads x.runId = some st → Remains x v' st) :
      Abandoned x v loads v' (r, loads)

theorem abandon_sat {loads : StagedLoads} {session : LoadSession}
    (commissioned : Commissioned x v.order) (unmarked : v.marked = false)
    (own : runIdOf session = x.runId) (remains : ∀ st, loads x.runId = some st → Remains x v st) :
    Sat custodyProtocol (OfWorker fun v' r => ∃ ends, r = .ok ends ∧ Abandoned x v loads v' ends)
      (.worker v) (abandon x loads session) := by
  have stays : Follows v v := ⟨rfl, unmarked, rfl⟩
  unfold abandon
  rw [own]
  simp only
  rcases hst : loads x.runId with _ | st
  · exact ⟨_, rfl, .uncertain stays nofun rfl fun st h => absurd (hst.symm.trans h) nofun⟩
  obtain ⟨owner, loaded, whenSubmitted, unlessSubmitted⟩ := remains st hst
  have only {v' : Custody} (h : Remains x v' st) :
      ∀ st, loads x.runId = some st → Remains x v' st := by
    intro st' h'
    obtain rfl : st = st' := Option.some.inj (hst.symm.trans h')
    exact h
  have stay (r : Except Raised AbortResult) (certain : r ≠ .ok .rolledBack) :
      Abandoned x v loads v (r, loads) := .uncertain stays certain rfl remains
  show Sat custodyProtocol _ _ (ite _ _ _)
  split
  · rename_i hs
    have phase := whenSubmitted hs
    refine Program.sat_bind.2 (recordQuietly_sat commissioned
      (fun _ => ⟨by rw [phase]; rfl, fun _ => owner, trivial⟩) ⟨_, rfl, stay _ nofun⟩ fun ok => ?_)
    refine ⟨_, rfl, .uncertain (.recorded unmarked _ _) nofun rfl (only ⟨owner_recorded owner, loaded,
      fun _ => ?_, fun h => absurd (hs.symm.trans h) nofun⟩)⟩
    simp only [Custody.recorded, phase]
    cases ok <;> rfl
  · rename_i hs
    have hs : st.publishSubmitted = false := Bool.eq_false_iff.2 hs
    obtain ⟨phase, unsent⟩ := unlessSubmitted hs
    -- an event of the cleanup may come next, whatever is left
    have cleanup (v' : Custody) (same : v'.phase = v.phase) (event : PublicationEvent)
        (aborts : event = .abortConfirmed ∨ ∃ e, event = .abortUncertain e) :
        (v'.phase.next event).isSome ∧ ∀ ok, (v'.recorded event ok).phase = .aborting := by
      rcases aborts with rfl | ⟨e, rfl⟩ <;> rcases phase with phase | phase <;>
        refine ⟨by rw [same, phase]; rfl, fun ok => ?_⟩ <;>
        simp only [Custody.recorded, same, phase] <;> cases ok <;> rfl
    have unsubmitted {v' : Custody} (order : v'.order = v.order) (owner : v'.owner = true)
        (phase : v'.phase = .staged ∨ v'.phase = .aborting) (unsent : v'.sent = none) :
        Remains x v' st :=
      ⟨owner, order ▸ loaded, fun h => absurd (hs.symm.trans h) nofun, fun _ => ⟨phase, unsent⟩⟩
    -- the staging table was not dropped
    have failed {v' : Custody} (follows : Follows v v') (owner : v'.owner = true)
        (same : v'.phase = v.phase) (sent : v'.sent = none) (exc : Raised) :
        Sat custodyProtocol (OfWorker fun v' r => ∃ ends, r = .ok ends ∧ Abandoned x v loads v' ends)
          (.worker v') (do
            let _ ← recordQuietly x st.locator x.runId
              (.abortUncertain (some (exc.safeError "staging cleanup")))
            return (.ok .uncertain, loads)) := by
      obtain ⟨next, after⟩ := cleanup v' same (.abortUncertain (some (exc.safeError "staging cleanup")))
        (.inr ⟨_, rfl⟩)
      have remains : Remains x v' st := unsubmitted follows.order owner (same ▸ phase) sent
      refine Program.sat_bind.2 (recordQuietly_sat (commissioned.of_eq follows.order)
        (fun _ => ⟨next, fun _ => owner, trivial⟩) ?_ fun ok => ?_)
      · exact ⟨_, rfl, .uncertain follows nofun (sent.trans unsent.symm) (only remains)⟩
      · exact ⟨_, rfl, .uncertain (follows.trans (.recorded follows.unmarked _ _)) nofun
          (sent.trans unsent.symm)
          (only (unsubmitted follows.order (owner_recorded owner) (.inr (after ok)) sent))⟩
    refine Program.sat_bind.2 (Program.sat_attempt.2 ?_)
    unfold dropStaging
    rw [loaded.stagingName]
    refine execute_sat unmarked ⟨owner, unmarked, rfl⟩
      (fun e status => failed stays owner rfl unsent _) ?_
      fun e status => failed (.executed v (.dropIfExists v.order.staging) false) owner rfl unsent _
    have follows : Follows v { v.executed (.dropIfExists v.order.staging) true with marked := false } :=
      .executed ..
    obtain ⟨next, after⟩ := cleanup { v.executed (.dropIfExists v.order.staging) true with
      marked := false } rfl .abortConfirmed (.inl rfl)
    refine Program.sat_bind.2 (Program.sat_attempt.2 (recordEvent_sat (commissioned.of_eq follows.order)
      (fun _ => ⟨next, fun _ => owner, rfl, unsent⟩)
      (fun e status => ⟨_, rfl, .uncertain follows nofun rfl
        (only (unsubmitted rfl owner phase unsent))⟩)
      (fun _ => ⟨_, rfl, .rolledBack (follows.trans (.recorded rfl _ _)) unsent rfl
        (Function.update_self ..)⟩)
      fun _ e status => ⟨_, rfl, .uncertain (follows.trans (.recorded rfl _ _)) nofun rfl
        (only (unsubmitted rfl (owner_recorded owner) (.inr (after false)) unsent))⟩))

end Writer

end Databricks

end DataMover
