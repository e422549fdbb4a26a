import DataMover.Databricks.Conformance

/-!
# Workers follow the protocol

`process_one` with this connector for its destination follows `custodyProtocol` (`publishOne_sat`):
the engine's own protocol (`processOne_sat`, `processOne_steady`) says when the connector is called,
and `Linked` relates what the engine has seen to what the connector has done.
-/

namespace DataMover

open Program (lift attempt Sat Returning)

/-- What a call that the connector does not carry out shows, and what it leaves as it was. -/
theorem Progress.observe_apart {c : Call} (p : Progress) (h : c.carried = false)
    (r : Except Exn c.Answer) :
    (p.observe c r).apart = p.apart.observe c r ∧ (p.observe c r).prepared = p.prepared ∧
      (p.observe c r).session = p.session ∧ (p.observe c r).written = p.written ∧
      (p.observe c r).finalized = p.finalized ∧ (p.observe c r).rolledBack = p.rolledBack := by
  cases c with
  | service call =>
    cases call with
    | transition status message =>
      cases status <;> cases r <;> exact ⟨rfl, rfl, rfl, rfl, rfl, rfl⟩
    | _ => cases r <;> exact ⟨rfl, rfl, rfl, rfl, rfl, rfl⟩
  | prepareDestination | writeBatch | finalize | abort => cases h
  | _ => cases r <;> exact ⟨rfl, rfl, rfl, rfl, rfl, rfl⟩

namespace Databricks

/-- How a run is commissioned: the texts of the tables, the statement and the job. -/
def commission (x : Context) (env : WorkerEnv) (run : PipelineRun) : Commission where
  runId := x.runId
  staging := ((stagingSchemaOf x.stagingSchema).toOption.map (stagingName · x.runId)).getD ""
  target := x.destination.databricks?.bind fun table => (qualified table).toOption
  targetKey := x.destination.databricks?.map x.targetKey
  mode := (env.writeMode? run).bind publishMode
  job := env.job? run

theorem commissioned (x : Context) (env : WorkerEnv) (run : PipelineRun) :
    Commissioned x (commission x env run) where
  runId := rfl
  staging schema h := by
    simp only [commission, h]
    rfl
  target := rfl
  targetKey := rfl

/-- What the connector holds for its session, between two calls. -/
inductive Holding (x : Context) (v : Custody) (loads : StagedLoads) (p : Progress) : Bool → Prop
  | unprepared (first : p.prepared = []) (closed : p.session = none) (unwritten : p.written = [])
      (fresh : v.phase = .start) (unsent : v.sent = none) : Holding x v loads p false
  | refused (once : p.prepared ≠ []) (closed : p.session = none) : Holding x v loads p false
  | loading {session : LoadSession} {schema : ObjectSchema} {st : StagedLoad} {rows : List Row}
      (once : p.prepared = [schema]) (isOpen : p.session = some session)
      (own : runIdOf session = x.runId) (kept : loads x.runId = some st)
      (filled : Filled x v st rows) (columns : st.columns = schema.names)
      (images : rows = p.written.flatMap fun batch =>
        insertedRows schema.names st.timestampNtzColumns batch.frame) : Holding x v loads p false
  | stopped {session : LoadSession} (once : p.prepared ≠ []) (isOpen : p.session = some session)
      (own : runIdOf session = x.runId)
      (remains : ∀ st, loads x.runId = some st → Remains x v st) : Holding x v loads p true

/-- What the engine has seen of its destination agrees with what the connector has done. -/
structure Linked (x : Context) (order : Commission) (state : Progress × Bool) (loads : StagedLoads)
    (v : Custody) : Prop where
  order : v.order = order
  unmarked : v.marked = false
  worker : v.worker = state.1.apart
  pending : state.1.finalized = .pending → v.sent = none
  returned : state.1.finalized = .returned → v.sent = some true
  rolledBack : state.1.rolledBack = some true → v.sent = none
  holding : Holding x v loads state.1 state.2

section Calls

variable {x : Context} {env : WorkerEnv} {run : PipelineRun} {p : Progress} {stopped : Bool}
  {loads : StagedLoads} {v : Custody} {c : Call}

/-- The view of a worker that is linked to the engine. -/
def OfLinked (x : Context) (order : Commission) (state : Progress × Bool) (loads : StagedLoads) :
    View → Prop
  | .worker v => Linked x order state loads v
  | .pass _ => False

theorem carryOut_eq (h : c.carried = false) : carryOut x loads c = (do
    let outcome ← attempt (call (.worker c))
    return seen (outcome, loads)) := by
  cases c <;> first | rfl | cases h

/-- What a clean run, or one that is complete, may report. -/
theorem Linked.reports {order : Commission} {job : Option Job} {call : WorkerCall}
    (linked : Linked x order (p, stopped) loads v) (orderly : OrderlyService job p call) :
    v.Reports call := by
  have clean (h : p.Clean) : v.sent = none := h.elim linked.pending fun h => linked.rolledBack h.2
  cases call with
  | failRun a => exact orderly.1.elim (fun h => .inr (clean h)) .inl
  | completeRun a => exact linked.returned orderly.1
  | cancelClaimedRun | blockRun => exact linked.pending orderly
  | blockComputeReadiness => exact clean orderly
  | _ => trivial

/-- The engine's other calls. -/
theorem worker_sat {order : Commission} {job : Option Job} {mode : Option WriteMode}
    (plain : c.carried = false) (orderly : Orderly job p c)
    (linked : Linked x order (p, stopped) loads v) :
    Sat custodyProtocol (Returning fun t r => OfLinked x order
      (((workerProtocol job).both (steadyProtocol mode)).observe (p, stopped) c r.1) r.2 t)
      (.worker v) (carryOut x loads c) := by
  rw [carryOut_eq plain]
  refine Program.sat_bind.2 (Program.sat_attempt.2 (Program.sat_call.2 ⟨?_, fun r => ?_⟩))
  · cases c with
    | service call => exact linked.reports orderly
    | _ => trivial
  · obtain ⟨apart, prepared, session, written, finalized, rolledBack⟩ :=
      Progress.observe_apart p plain (r.mapError Raised.exn)
    have same : (steadyProtocol mode).observe stopped c (r.mapError Raised.exn) = stopped := by
      cases c <;> first | rfl | cases plain
    show Linked x order (p.observe c (r.mapError Raised.exn),
      (steadyProtocol mode).observe stopped c (r.mapError Raised.exn)) loads
      { v with worker := v.worker.observe c (r.mapError Raised.exn) }
    rw [same]
    refine ⟨linked.order, linked.unmarked, ?_, fun h => linked.pending (finalized.symm.trans h),
      fun h => linked.returned (finalized.symm.trans h),
      fun h => linked.rolledBack (rolledBack.symm.trans h), ?_⟩
    · rw [apart, ← linked.worker]
    · cases linked.holding with
      | unprepared first closed unwritten fresh unsent =>
        exact .unprepared (prepared.trans first) (session.trans closed) (written.trans unwritten)
          fresh unsent
      | refused once closed => exact .refused (prepared ▸ once) (session.trans closed)
      | loading once isOpen own kept filled columns images =>
        exact .loading (prepared.trans once) (session.trans isOpen) own kept
          ⟨filled.owner, filled.phase, filled.table, filled.unsent, filled.loaded, filled.unsubmitted⟩
          columns (written ▸ images)
      | stopped once isOpen own remains =>
        exact .stopped (prepared ▸ once) (session.trans isOpen) own fun st h =>
          ⟨(remains st h).owner, (remains st h).loaded, (remains st h).submitted,
            (remains st h).unsubmitted⟩

/-- The engine prepares its destination. -/
theorem prepare_sat {order : Commission} {job : Option Job} {mode : Option WriteMode}
    {schema : ObjectSchema} {policy : WritePolicy} {runId : String}
    (commissioned : Commissioned x order) (agreed : order.mode = mode.bind publishMode)
    (allowed : ((workerProtocol job).both (steadyProtocol mode)).Allowed (p, stopped)
      (.prepareDestination schema policy runId))
    (linked : Linked x order (p, stopped) loads v) :
    Sat custodyProtocol (Returning fun t r => OfLinked x order
      (((workerProtocol job).both (steadyProtocol mode)).observe (p, stopped)
        (.prepareDestination schema policy runId) r.1) r.2 t)
      (.worker v) (carryOut x loads (.prepareDestination schema policy runId)) := by
  obtain ⟨⟨-, first, -⟩, -, opens⟩ := allowed
  obtain ⟨sameOrder, unmarked, worker, pending, returned, rolledBack, holding⟩ := linked
  cases holding with
  | refused once => exact absurd first once
  | stopped once => exact absurd first once
  | loading once => exact absurd (once.symm.trans first) nofun
  | unprepared first closed unwritten fresh unsent =>
  have policyMode : publishMode policy.mode = v.order.mode := by
    rw [sameOrder, agreed, show mode = some policy.mode from opens]
    rfl
  refine Program.sat_bind.2 (Program.sat_attempt.2 ((prepareDestination_sat (sameOrder ▸ commissioned)
    fresh unmarked unsent policyMode).mono ?_))
  rintro (v' | w) r good
  swap
  · exact good.elim
  obtain ⟨follows, unsent', opens⟩ := good
  have notReturned (h : p.finalized = .returned) : v'.sent = some true :=
    absurd (unsent.symm.trans (returned h)) nofun
  rcases r with e | ⟨session, loads'⟩
  · refine ⟨follows.order.trans sameOrder, follows.unmarked, follows.worker.trans worker,
      fun _ => unsent', notReturned, fun _ => unsent', .refused ?_ closed⟩
    simp [workerProtocol, Protocol.both, Progress.observe]
  · obtain ⟨st, opened, rfl⟩ := opens session loads' rfl
    have once : p.prepared ++ [schema] = [schema] := by rw [show p.prepared = [] from first]; rfl
    refine ⟨follows.order.trans sameOrder, follows.unmarked, follows.worker.trans worker,
      fun _ => unsent', notReturned, fun _ => unsent',
      .loading once rfl opened.session (Function.update_self ..)
      ⟨opened.owner, opened.phase, opened.table, unsent', opened.loaded, opened.unsubmitted⟩
      opened.columns ?_⟩
    show [] = p.written.flatMap _
    rw [unwritten]
    rfl

/-- The engine writes a batch. -/
theorem write_sat {order : Commission} {job : Option Job} {mode : Option WriteMode}
    {session : LoadSession} {batch : TransferBatch} (commissioned : Commissioned x order)
    (allowed : ((workerProtocol job).both (steadyProtocol mode)).Allowed (p, stopped)
      (.writeBatch session batch))
    (linked : Linked x order (p, stopped) loads v) :
    Sat custodyProtocol (Returning fun t r => OfLinked x order
      (((workerProtocol job).both (steadyProtocol mode)).observe (p, stopped)
        (.writeBatch session batch) r.1) r.2 t)
      (.worker v) (carryOut x loads (.writeBatch session batch)) := by
  obtain ⟨⟨isOpen, pending', -⟩, goes, -⟩ := allowed
  obtain rfl : stopped = false := goes rfl
  obtain ⟨sameOrder, unmarked, worker, pending, returned, rolledBack, holding⟩ := linked
  cases holding with
  | refused once closed => exact absurd (closed.symm.trans isOpen) nofun
  | unprepared first closed => exact absurd (closed.symm.trans isOpen) nofun
  | loading once isOpen' own kept filled columns images =>
  rename_i session' schema st rows
  obtain rfl : session = session' := Option.some.inj (isOpen.symm.trans isOpen')
  refine Program.sat_bind.2
    ((writeRows_sat (sameOrder ▸ commissioned) unmarked own kept filled).mono ?_)
  rintro (v' | w) r good
  swap
  · exact good.elim
  obtain ⟨ends, rfl, written⟩ := good
  have notReturned (v' : Custody) (h : p.finalized = .returned) : v'.sent = some true :=
    absurd (pending'.symm.trans h) nofun
  cases written with
  | accepted follows filled' columns' timestampNtz =>
    refine ⟨follows.order.trans sameOrder, follows.unmarked, follows.worker.trans worker,
      fun _ => filled'.unsent, notReturned v', fun _ => filled'.unsent,
      .loading once isOpen own (Function.update_self ..) filled' (columns'.trans columns) ?_⟩
    show _ = (p.written ++ [batch]).flatMap _
    rw [List.flatMap_append, List.flatMap_singleton, timestampNtz, columns, images]
  | refused follows unsent kept remains =>
    refine ⟨follows.order.trans sameOrder, follows.unmarked, follows.worker.trans worker,
      fun _ => unsent, notReturned v', fun _ => unsent,
      .stopped (fun none => absurd (once.symm.trans none) nofun) isOpen own fun st h => ?_⟩
    obtain rfl := Option.some.inj (kept.symm.trans h)
    exact remains

/-- The engine finalizes. -/
theorem finalize_sat {order : Commission} {job : Option Job} {mode : Option WriteMode}
    {session : LoadSession} (commissioned : Commissioned x order) (hired : order.job = job)
    (allowed : ((workerProtocol job).both (steadyProtocol mode)).Allowed (p, stopped)
      (.finalize session))
    (linked : Linked x order (p, stopped) loads v) :
    Sat custodyProtocol (Returning fun t r => OfLinked x order
      (((workerProtocol job).both (steadyProtocol mode)).observe (p, stopped) (.finalize session)
        r.1) r.2 t)
      (.worker v) (carryOut x loads (.finalize session)) := by
  obtain ⟨⟨isOpen, -, -, -, notAborted, j, hj, batches, loaded, all, -⟩, goes, -⟩ := allowed
  obtain rfl : stopped = false := goes rfl
  obtain ⟨sameOrder, unmarked, worker, pending, returned, rolledBack, holding⟩ := linked
  cases holding with
  | refused once closed => exact absurd (closed.symm.trans isOpen) nofun
  | unprepared first closed => exact absurd (closed.symm.trans isOpen) nofun
  | loading once isOpen' own kept filled columns images =>
  rename_i session' schema st rows
  obtain rfl : session = session' := Option.some.inj (isOpen.symm.trans isOpen')
  -- everything that the source has yielded is staged
  have complete : v.order.Images v.worker.extraction rows := by
    obtain ⟨sourceSchema, plan, hmacKey, source, planned, prepared, key, writes⟩ := loaded
    obtain rfl : schema = plan.schema := (List.cons.inj (once.symm.trans prepared)).1
    rw [all, List.take_length] at writes
    refine ⟨j, ?_, sourceSchema, batches, plan, hmacKey, p.written, st.timestampNtzColumns, ?_,
      planned, key, writes, images⟩
    · rw [sameOrder, hired]
      exact hj
    · rw [worker]
      exact source.extraction
  refine Program.sat_bind.2 ((publish_sat (sameOrder ▸ commissioned) unmarked own kept filled
    complete).mono ?_)
  rintro (v' | w) r good
  swap
  · exact good.elim
  obtain ⟨ends, rfl, finalized⟩ := good
  have notRolledBack (h : p.rolledBack = some true) : v'.sent = none :=
    absurd (notAborted.symm.trans h) nofun
  have notFirst (h : p.prepared = []) : False := absurd (once.symm.trans h) nofun
  cases finalized with
  | published follows sent gone =>
    exact ⟨follows.order.trans sameOrder, follows.unmarked, follows.worker.trans worker, nofun,
      fun _ => sent, notRolledBack, .stopped notFirst isOpen own fun st h =>
        absurd (gone.symm.trans h) nofun⟩
  | raised follows kept remains =>
    refine ⟨follows.order.trans sameOrder, follows.unmarked, follows.worker.trans worker, nofun,
      nofun, notRolledBack, .stopped notFirst isOpen own fun st h => ?_⟩
    obtain rfl := Option.some.inj (kept.symm.trans h)
    exact remains

/-- The engine aborts. -/
theorem abort_sat {order : Commission} {job : Option Job} {mode : Option WriteMode}
    {session : LoadSession} (commissioned : Commissioned x order)
    (allowed : ((workerProtocol job).both (steadyProtocol mode)).Allowed (p, stopped) (.abort session))
    (linked : Linked x order (p, stopped) loads v) :
    Sat custodyProtocol (Returning fun t r => OfLinked x order
      (((workerProtocol job).both (steadyProtocol mode)).observe (p, stopped) (.abort session) r.1)
        r.2 t)
      (.worker v) (carryOut x loads (.abort session)) := by
  have isOpen : p.session = some session := allowed.1
  obtain ⟨sameOrder, unmarked, worker, pending, returned, rolledBack, holding⟩ := linked
  have held : p.prepared ≠ [] ∧ runIdOf session = x.runId ∧
      ∀ st, loads x.runId = some st → Remains x v st := by
    cases holding with
    | refused once closed => exact absurd (closed.symm.trans isOpen) nofun
    | unprepared first closed => exact absurd (closed.symm.trans isOpen) nofun
    | loading once isOpen' own kept filled =>
      obtain rfl := Option.some.inj (isOpen.symm.trans isOpen')
      refine ⟨fun none => absurd (once.symm.trans none) nofun, own, fun st h => ?_⟩
      obtain rfl := Option.some.inj (kept.symm.trans h)
      exact filled.remains
    | stopped once isOpen' own remains =>
      obtain rfl := Option.some.inj (isOpen.symm.trans isOpen')
      exact ⟨once, own, remains⟩
  obtain ⟨once, own, remains⟩ := held
  refine Program.sat_bind.2 ((abandon_sat (sameOrder ▸ commissioned) unmarked own remains).mono ?_)
  rintro (v' | w) r good
  swap
  · exact good.elim
  obtain ⟨ends, rfl, abandoned⟩ := good
  cases abandoned with
  | rolledBack follows unsent sent gone =>
    exact ⟨follows.order.trans sameOrder, follows.unmarked, follows.worker.trans worker,
      fun h => sent.trans (pending h), fun h => sent.trans (returned h), fun _ => sent.trans unsent,
      .stopped once isOpen own fun st h => absurd (gone.symm.trans h) nofun⟩
  | uncertain follows certain sent remains =>
    rename_i r
    cases r with
    | error e =>
      exact ⟨follows.order.trans sameOrder, follows.unmarked, follows.worker.trans worker,
        fun h => sent.trans (pending h), fun h => sent.trans (returned h), nofun,
        .stopped once isOpen own remains⟩
    | ok result =>
      refine ⟨follows.order.trans sameOrder, follows.unmarked, follows.worker.trans worker,
        fun h => sent.trans (pending h), fun h => sent.trans (returned h), fun h => ?_,
        .stopped once isOpen own remains⟩
      have confirmed : result = .rolledBack := of_decide_eq_true (Option.some.inj h)
      exact absurd (congrArg _ confirmed) certain

/-- A worker of a run that writes to Databricks follows the protocol. -/
theorem publishOne_sat (lawful : env.lib.Lawful) :
    Sat custodyProtocol (fun _ _ => True) (.worker { order := commission x env run })
      (publishOne x env run) := by
  have ready := commissioned x env run
  have orderly : Sat (workerProtocol (env.job? run)) (fun _ _ => True) {} (processOne env run) :=
    processOne_sat lawful
  have engine := orderly.both (processOne_steady env run)
  refine (Sat.interpret (I := OfLinked x (commission x env run)) ?_ engine ?_).mono
    fun _ _ _ => trivial
  · rintro ⟨p, stopped⟩ loads (v | w) c allowed linked
    · cases c with
      | prepareDestination schema policy runId => exact prepare_sat ready rfl allowed linked
      | writeBatch session batch => exact write_sat ready allowed linked
      | finalize session => exact finalize_sat ready rfl allowed linked
      | abort session => exact abort_sat ready allowed linked
      | _ => exact worker_sat rfl allowed.1 linked
    · exact linked.elim
  · exact ⟨rfl, rfl, rfl, fun _ => rfl, nofun, nofun, .unprepared rfl rfl rfl rfl rfl⟩

end Calls

end Databricks

end DataMover
