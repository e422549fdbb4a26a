import DataMover.Engine.Protocol

/-!
# The engine follows its protocol

The specifications of the parts of `execute_transfer` and `process_one`, from the checkpoints up to the
whole worker.
-/

namespace DataMover

open Program (lift attempt Sat)

/-! ## Quiet states -/

/-- The guardrails do not wait to block the run. -/
def Quiet (j : Job) (p : Progress) : Prop := ¬ Unresolved j p

/-- The part of the progress that says so. -/
def Progress.key (p : Progress) :
    Bool × Bool × Option ObjectSchema × Option Spool.Yield :=
  (p.checked, p.blocked, p.inspected, p.extraction)

section Quiet

variable {j : Job} {p p' : Progress}

theorem Progress.Source.of_key {sourceSchema : ObjectSchema} {batches : List TransferBatch}
    (h : p.Source sourceSchema batches) (same : p'.key = p.key) : p'.Source sourceSchema batches := by
  simp only [Progress.key, Prod.mk.injEq] at same
  exact ⟨same.2.2.1.trans h.inspected, same.2.2.2.trans h.extraction⟩

theorem Quiet.of_key (h : Quiet j p) (same : p'.key = p.key) : Quiet j p' := by
  intro u
  have back := same
  simp only [Progress.key, Prod.mk.injEq] at back
  obtain ⟨src, batches, scan, source, rest⟩ := u.decided
  exact h ⟨back.1.symm.trans u.checked, back.2.1.symm.trans u.unblocked, src, batches, scan,
    source.of_key same.symm, rest⟩

theorem quiet_of_unchecked (h : p.checked = false) : Quiet j p := by
  intro u
  exact absurd (h.symm.trans u.checked) (by simp)

theorem quiet_of_blocked (h : p.blocked = true) : Quiet j p := by
  intro u
  exact absurd (h.symm.trans u.unblocked) (by simp)

/-- When the decision does not block the run, every flagged column has an action. -/
theorem lookup_of_flagged {sourceSchema : ObjectSchema} {batches : List TransferBatch}
    {scan : ScanState} {destinationSchema : Option ObjectSchema} (lawful : j.lib.Lawful)
    (complete : scanAll j sourceSchema batches = .ok scan)
    (unblocked : (scanDecision j sourceSchema scan destinationSchema).blockedReason = "")
    {column : String} (flagged : Flagged j.lib sourceSchema batches column) :
    ∃ action, (scanEffective j sourceSchema scan).lookup column = some action := by
  obtain ⟨spooled, -, reordered, counts⟩ := (scanned_of_scanAll lawful complete).spooled
  have flagged' : Flagged j.lib sourceSchema spooled column := by
    rcases flagged with marked | ⟨batch, hb, series, hs, hn, hit⟩
    · exact .inl marked
    · obtain ⟨i, hi, rfl⟩ := List.getElem_of_mem hb
      have hi' : i < spooled.length := reordered.length_eq ▸ hi
      have rel := List.forall₂_iff_get.1 reordered |>.2 i hi hi'
      obtain ⟨names, hsel, all⟩ := rel.select
      obtain ⟨-, -, same⟩ := Frame.select_eq_ok hsel
      have found : batches[i].frame.column? column = some series :=
        Frame.column?_eq_some_iff.2 ⟨hs, hn⟩
      have inNames : column ∈ names := all _ (hn ▸ Frame.mem_names hs)
      have kept := (same column inNames).trans found
      exact .inr ⟨spooled[i], List.getElem_mem hi', series,
        (Frame.column?_eq_some_iff.1 kept).1, hn, hit⟩
  obtain ⟨f, hf, hc⟩ := exists_finding_of_flagged j.snapshot.guardrailActions scan.schema flagged'
  rw [← counts] at hf
  obtain ⟨action, ha⟩ := (guardrailDecision_unblocked unblocked).1 f hf
  exact ⟨action, by rw [← hc]; exact ha⟩

/-- Under a plan, nothing is waiting. -/
theorem Planned.quiet {sourceSchema : ObjectSchema} {batches : List TransferBatch}
    {plan : Plan} (h : Planned j sourceSchema batches plan)
    (source : p.Source sourceSchema batches) : Quiet j p := by
  intro u
  obtain ⟨src, bs, scan, source', hscan, blocked⟩ := u.decided
  obtain rfl : src = sourceSchema :=
    Option.some.inj (source'.inspected.symm.trans source.inspected)
  obtain rfl : bs = batches := by
    have := Option.some.inj (source'.extraction.symm.trans source.extraction)
    exact (Spool.Yield.mk.inj this).1
  obtain rfl : scan = plan.scan := Except.ok.inj (hscan.symm.trans h.scan)
  obtain ⟨destinationSchema, decision⟩ := h.decision
  exact blocked destinationSchema ((congrArg Decision.blockedReason decision).symm.trans h.unblocked)

theorem allowed_of {c : Call} (quiet : Quiet j p) (orderly : Orderly (some j) p c) :
    (transferProtocol j).Allowed p c :=
  ⟨orderly, fun u => absurd u quiet⟩

end Quiet

/-! ## Checkpoints -/

section Checkpoints

variable {j : Job} {p : Progress}

theorem cancelClaimedRun_sat {impact : Option DataImpact} {Q : Progress → Except Exn Unit → Prop}
    (quiet : Quiet j p) (pending : p.finalized = .pending)
    (h : ∀ r, Q { p with ending := true } r) :
    Sat (transferProtocol j) Q p (cancelClaimedRun impact) :=
  Sat.call_bind (allowed_of quiet pending) (fun _ => h _) fun _ => h _

theorem checkpoint_sat {onCancel : Transfer Unit} {Q : Progress → Except Exn Bool → Prop}
    (quiet : Quiet j p) (error : ∀ e, Q p (.error e))
    (pass : Q { p with checked := p.checked || p.closed } (.ok true))
    (cancel : Sat (transferProtocol j) (fun t r => Q t ((fun _ => false) <$> r)) p onCancel) :
    Sat (transferProtocol j) Q p (checkpoint onCancel) := by
  refine Sat.call_bind (allowed_of quiet trivial) (fun lost => ?_) error
  cases lost with
  | true => exact error leaseLostError
  | false =>
    refine Sat.call_bind (allowed_of quiet trivial) (fun cancelled => ?_) error
    cases cancelled with
    | true =>
      have same : (transferProtocol j).observe p .cancelRequested (.ok true) = p := by
        show { p with checked := p.checked || (p.closed && !true) } = p
        simp
      show Sat _ _ ((transferProtocol j).observe p .cancelRequested (.ok true)) _
      rw [same]
      refine Sat.bind cancel (fun t _ h => h) fun t e h => h
    | false =>
      have passed : (transferProtocol j).observe p .cancelRequested (.ok false) =
          { p with checked := p.checked || p.closed } := by
        show { p with checked := p.checked || (p.closed && !false) } = _
        simp
      show Sat _ _ ((transferProtocol j).observe p .cancelRequested (.ok false)) _
      rw [passed]
      exact pass

theorem abortQuietly_sat {session : LoadSession} {Q : Progress → Except Exn Bool → Prop}
    (quiet : Quiet j p) (isOpen : p.session = some session)
    (h : ∀ rolledBack, Q { p with rolledBack := some rolledBack } (.ok rolledBack)) :
    Sat (transferProtocol j) Q p (abortQuietly session) := by
  refine Program.sat_bind.2 (Program.sat_attempt.2 ?_)
  refine Program.sat_call.2 ⟨allowed_of quiet isOpen, fun r => ?_⟩
  cases r with
  | ok result => exact h (decide (result = .rolledBack))
  | error e => exact h false

theorem cancelAfterAbort_sat {run : PipelineRun} {session : LoadSession}
    {Q : Progress → Except Exn Unit → Prop} (quiet : Quiet j p)
    (isOpen : p.session = some session) (pending : p.finalized = .pending)
    (h : ∀ rolledBack r, Q { p with rolledBack := some rolledBack, ending := true } r) :
    Sat (transferProtocol j) Q p (cancelAfterAbort run session) := by
  refine Sat.bind (R := fun t r => ∃ b, t = { p with rolledBack := some b } ∧ r = .ok b)
    (abortQuietly_sat quiet isOpen fun b => ⟨b, rfl, rfl⟩) ?_ ?_
  · rintro t b ⟨b', rfl, -⟩
    exact cancelClaimedRun_sat (quiet.of_key rfl) pending (h b')
  · rintro t e ⟨b, -, h⟩
    cases h

theorem timedOut_sat {started : Time} {Q : Progress → Except Exn Bool → Prop}
    (quiet : Quiet j p) (h : ∀ r, Q p r) :
    Sat (transferProtocol j) Q p (timedOut j started) :=
  Sat.call_bind (allowed_of quiet trivial) (fun _ => h _) fun _ => h _

/-- A best-effort read of the destination raises nothing. -/
theorem destinationRowCount_sat {d : Destination} {Q : Progress → Except Exn (Option Int) → Prop}
    (quiet : Quiet j p) (h : ∀ rows, Q p (.ok rows)) :
    Sat (transferProtocol j) Q p (destinationRowCount d) := by
  unfold destinationRowCount
  split_ifs
  · exact h none
  · refine Program.sat_bind.2 (Program.sat_attempt.2 ?_)
    refine Program.sat_call.2 ⟨allowed_of quiet trivial, fun r => ?_⟩
    cases r with
    | ok rows => exact h rows
    | error e => exact h none

theorem inspectDestinationSchema_sat {d : Destination}
    {Q : Progress → Except Exn (Option ObjectSchema) → Prop} (quiet : Quiet j p)
    (h : ∀ schema, Q p (.ok schema)) :
    Sat (transferProtocol j) Q p (inspectDestinationSchema d) := by
  unfold inspectDestinationSchema
  split_ifs
  · exact h none
  · refine Program.sat_bind.2 (Program.sat_attempt.2 ?_)
    refine Program.sat_call.2 ⟨allowed_of quiet trivial, fun r => ?_⟩
    cases r with
    | ok schema => exact h _
    | error e => exact h none

/-- A checkpoint that ends the part of the transfer it stands in. -/
theorem checkpoint_bind {β : Type} {onCancel : Transfer Unit} {f : Transfer (Option β)}
    {Q : Progress → Except Exn (Option β) → Prop} (quiet : Quiet j p)
    (error : ∀ e, Q p (.error e))
    (cancel : Sat (transferProtocol j) (fun t r => Q t ((fun _ => none) <$> r)) p onCancel)
    (pass : Sat (transferProtocol j) Q { p with checked := p.checked || p.closed } f) :
    Sat (transferProtocol j) Q p
      (checkpoint onCancel >>= fun go => if !go then pure none else f) := by
  refine Program.sat_bind.2 (checkpoint_sat quiet error pass (cancel.mono fun t r h => ?_))
  cases r with
  | ok _ => exact h
  | error e => exact h

end Checkpoints

/-! ## Before the session -/

/-- How a part of the transfer ends before a destination session is open. -/
def EndsEarly {α : Type} (j : Job) (R : Progress → α → Prop) (p : Progress) :
    Except Exn (Option α) → Prop
  | .ok (some a) => R p a
  | .ok none => p.finalized = .pending ∧ Quiet j p
  | .error _ => p.finalized = .pending

section BeforeSession

variable {j : Job} {p : Progress} {sourceSchema : ObjectSchema} {batches : List TransferBatch}
  {started : Time}

theorem early_checkpoint {α : Type} {R : Progress → α → Prop} {f : Transfer (Option α)}
    (quiet : Quiet j p) (pending : p.finalized = .pending)
    (pass : Sat (transferProtocol j) (EndsEarly j R) { p with checked := p.checked || p.closed } f) :
    Sat (transferProtocol j) (EndsEarly j R) p
      (checkpoint (cancelClaimedRun none) >>= fun go => if !go then pure none else f) := by
  refine checkpoint_bind quiet (fun _ => pending) ?_ pass
  refine cancelClaimedRun_sat quiet pending fun r => ?_
  cases r with
  | ok _ => exact ⟨pending, quiet.of_key rfl⟩
  | error e => exact pending

theorem validateRoute_sat : Sat (transferProtocol j)
    (EndsEarly j fun t v => t = { inspected := some v.sourceSchema }) {} (validateRoute j) := by
  have quiet : Quiet j {} := quiet_of_unchecked rfl
  unfold validateRoute
  refine Program.sat_bind.2 (Program.sat_lift.2 ?_)
  cases resolveRoute j with
  | error e => exact rfl
  | ok destination =>
    refine early_checkpoint quiet rfl ?_
    refine Sat.call_bind (allowed_of quiet trivial) (fun _ => ?_) fun _ => rfl
    refine Sat.call_bind (allowed_of quiet trivial) (fun _ => ?_) fun _ => rfl
    refine Sat.call_bind (allowed_of quiet trivial) (fun _ => ?_) fun _ => rfl
    refine Program.sat_bind.2 (destinationRowCount_sat quiet fun rowsBefore => ?_)
    refine Program.sat_bind.2 (inspectDestinationSchema_sat quiet fun schemaBefore => ?_)
    refine Sat.call_bind (allowed_of quiet trivial) (fun sourceSchema => ?_) fun _ => rfl
    have quiet' : Quiet j { inspected := some sourceSchema } := quiet_of_unchecked rfl
    refine Program.sat_bind.2 (Program.sat_lift.2 ?_)
    cases checkDatabricksSource j sourceSchema with
    | error e => exact rfl
    | ok _ =>
      refine early_checkpoint quiet' rfl ?_
      show Sat _ _ ({ inspected := some sourceSchema } : Progress) _
      by_cases marked : sourceSchema.sensitivityMarkers ≠ []
      · rw [if_pos marked]
        exact Sat.call_bind (allowed_of quiet' rfl)
          (fun _ => ⟨rfl, quiet_of_blocked rfl⟩) fun _ => rfl
      · rw [if_neg marked]
        exact Sat.call_bind (allowed_of quiet' ⟨rfl, rfl, .inl rfl⟩) (fun _ => rfl) fun _ => rfl

/-- How the scan loop ends: nothing has been checked or finalized, and a complete scan has seen all
batches. -/
def ScanEnds (j : Job) (sourceSchema : ObjectSchema) (source : Spool.Yield) (t : Progress) :
    Except Exn (Option ScanState) → Prop
  | .ok (some st) => t = { inspected := some sourceSchema, extraction := some source } ∧
      source.failure = none ∧ scanAll j sourceSchema source.batches = .ok st
  | _ => t.checked = false ∧ t.finalized = .pending

theorem scanBatch_sat {source : Spool.Yield} {lastHeartbeat : Time} {st : ScanState}
    {batch : TransferBatch} :
    Sat (transferProtocol j)
      (fun t r => match r with
        | .ok (some (st', _)) => t = { inspected := some sourceSchema, extraction := some source } ∧
            scanData j sourceSchema st batch = .ok st'
        | _ => t.checked = false ∧ t.finalized = .pending)
      { inspected := some sourceSchema, extraction := some source }
      (scanBatch j sourceSchema started lastHeartbeat st batch) := by
  have quiet : Quiet j { inspected := some sourceSchema, extraction := some source } :=
    quiet_of_unchecked rfl
  unfold scanBatch
  refine checkpoint_bind quiet (fun _ => ⟨rfl, rfl⟩) ?_ ?_
  · refine cancelClaimedRun_sat quiet rfl fun r => ?_
    cases r <;> exact ⟨rfl, rfl⟩
  · refine Program.sat_bind.2 (timedOut_sat quiet fun r => ?_)
    cases r with
    | error e => exact ⟨rfl, rfl⟩
    | ok late =>
      cases late with
      | true => exact ⟨rfl, rfl⟩
      | false =>
        refine Program.sat_bind.2 (Program.sat_lift.2 ?_)
        cases hd : scanData j sourceSchema st batch with
        | error e => exact ⟨rfl, rfl⟩
        | ok st' =>
          refine Sat.call_bind (allowed_of quiet trivial) (fun now => ?_) fun _ => ⟨rfl, rfl⟩
          by_cases due : heartbeatDue j lastHeartbeat now
          · rw [if_pos due]
            refine Sat.call_bind (allowed_of quiet trivial) (fun _ => ?_) fun _ => ⟨rfl, rfl⟩
            exact Sat.call_bind (allowed_of quiet trivial) (fun _ => ⟨rfl, rfl⟩) fun _ => ⟨rfl, rfl⟩
          · rw [if_neg due]
            exact ⟨rfl, rfl⟩

theorem scanLoop_sat {source : Spool.Yield} {st : ScanState} (done : List TransferBatch)
    {rest : List TransferBatch} {lastHeartbeat : Time} (all : source.batches = done ++ rest)
    (scanned : scanAll j sourceSchema done = .ok st) :
    Sat (transferProtocol j) (ScanEnds j sourceSchema source)
      { inspected := some sourceSchema, extraction := some source }
      (scanLoop j sourceSchema started source.failure lastHeartbeat st rest) := by
  induction rest generalizing done st lastHeartbeat with
  | nil =>
    unfold scanLoop
    rw [List.append_nil] at all
    cases hf : source.failure with
    | none => exact ⟨rfl, hf, all ▸ scanned⟩
    | some e => exact ⟨rfl, rfl⟩
  | cons batch rest ih =>
    refine Sat.bind scanBatch_sat ?_ ?_
    · rintro t (_ | ⟨st', now⟩) h
      · exact h
      · obtain ⟨rfl, data⟩ := h
        refine ih (done ++ [batch]) (by rw [all, List.append_assoc]; rfl) ?_
        rw [scanAll_concat batch scanned, data]
    · exact fun t e h => h

/-- After the scan of the complete source. -/
def scanned (sourceSchema : ObjectSchema) (batches : List TransferBatch) : Progress where
  inspected := some sourceSchema
  extraction := some { batches }
  closed := true

theorem scanSource_sat : Sat (transferProtocol j)
    (EndsEarly j fun t st => ∃ batches, t = scanned sourceSchema batches ∧
      scanAll j sourceSchema batches = .ok st)
    { inspected := some sourceSchema } (scanSource j sourceSchema started) := by
  have quiet : Quiet j { inspected := some sourceSchema } := quiet_of_unchecked rfl
  unfold scanSource
  refine Sat.call_bind (allowed_of quiet trivial) (fun _ => ?_) fun _ => rfl
  refine Sat.call_bind (allowed_of quiet trivial) (fun source => ?_) fun _ => rfl
  refine Program.sat_bind.2 (Program.sat_attempt.2 ?_)
  refine (scanLoop_sat [] rfl rfl).mono fun t r ends => ?_
  match r, ends with
  | .ok (some st), ⟨ht, complete, all⟩ =>
    obtain ⟨batches, failure⟩ := source
    cases complete
    subst ht
    have quiet' : Quiet j
        { inspected := some sourceSchema, extraction := some { batches } } := quiet_of_unchecked rfl
    refine Program.sat_bind.2 (Program.sat_attempt.2 ?_)
    refine Program.sat_call.2 ⟨allowed_of quiet' trivial, fun r => ?_⟩
    cases r with
    | ok _ => exact ⟨batches, rfl, all⟩
    | error e => exact Sat.call_bind (allowed_of quiet' trivial) (fun _ => rfl) fun _ => rfl
  | .ok none, ends =>
    exact Sat.call_bind (allowed_of (quiet_of_unchecked ends.1) trivial)
      (fun _ => ⟨ends.2, quiet_of_unchecked ends.1⟩) fun _ => ends.2
  | .error e, ends =>
    exact Sat.call_bind (allowed_of (quiet_of_unchecked ends.1) trivial)
      (fun _ => ends.2) fun _ => ends.2

/-- After the checkpoint that follows the scan. -/
def scanChecked (sourceSchema : ObjectSchema) (batches : List TransferBatch) : Progress :=
  { scanned sourceSchema batches with checked := true }

/-- The source may be inspected again whatever the guardrails will say. -/
theorem refreshSource_sat {Q : Progress → Except Exn Unit → Prop}
    (h : ∀ r, Q (scanChecked sourceSchema batches) r) :
    Sat (transferProtocol j) Q (scanChecked sourceSchema batches)
      (refreshSource j sourceSchema) := by
  unfold refreshSource
  split_ifs
  · exact Sat.call_bind ⟨trivial, fun _ => .inspect⟩
      (fun _ => Program.sat_lift.2 (h _)) fun _ => h _
  · exact h _

theorem validateUpsertPolicy_sat {d : Destination} {schema : ObjectSchema}
    {destinationSchema : Option ObjectSchema} {Q : Progress → Except Exn (Option ObjectSchema) → Prop}
    (quiet : Quiet j p) (h : ∀ r, Q p r) :
    Sat (transferProtocol j) Q p
      (validateUpsertPolicy j d schema destinationSchema) := by
  have inspect : Sat (transferProtocol j) (fun t _ => t = p) p
      (inspectedOr destinationSchema) := by
    cases destinationSchema with
    | some schema => exact rfl
    | none => exact Program.sat_call.2 ⟨allowed_of quiet trivial, fun r => by cases r <;> rfl⟩
  unfold validateUpsertPolicy
  split
  case h_1 conflictColumns _ _ =>
    by_cases blind : (destinationSchema.isNone && !d.inspects) = true
    · rw [if_pos blind]
      exact h _
    · rw [if_neg blind]
      refine Sat.bind inspect ?_ ?_
      · rintro t inspected rfl
        split_ifs
        · exact h _
        · exact h _
        · exact h _
      · rintro t e rfl
        exact h _
  case h_2 => exact h _

/-- After the transition to `loading`. -/
def loadingFor (sourceSchema : ObjectSchema) (batches : List TransferBatch) : Progress :=
  { scanChecked sourceSchema batches with loading := true }

theorem decideGuardrails_sat {v : Validated} {scan : ScanState}
    (complete : scanAll j v.sourceSchema batches = .ok scan) :
    Sat (transferProtocol j)
      (EndsEarly j fun t plan => t = loadingFor v.sourceSchema batches ∧
        Planned j v.sourceSchema batches plan)
      (scanned v.sourceSchema batches) (decideGuardrails j v scan) := by
  unfold decideGuardrails
  refine early_checkpoint (quiet_of_unchecked rfl) rfl ?_
  show Sat _ _ (scanChecked v.sourceSchema batches) _
  refine Program.sat_bind.2 (refreshSource_sat fun r => ?_)
  cases r with
  | error e => exact rfl
  | ok _ =>
    set decision := guardrailDecision j.snapshot v.sourceSchema scan.schema scan.ssnCounts
      v.schemaBefore with hd
    by_cases blocked : decision.blockedReason ≠ ""
    · simp only [Program.Then, if_pos blocked]
      exact Sat.call_bind ⟨rfl, fun _ => .block v.schemaBefore ⟨rfl, rfl⟩ complete⟩
        (fun _ => ⟨rfl, quiet_of_blocked rfl⟩) fun _ => rfl
    · simp only [Program.Then, if_neg blocked]
      refine Program.sat_bind.2 (Program.sat_lift.2 ?_)
      cases hs : destinationSchemaFor j scan.schema decision.effective with
      | error e => exact rfl
      | ok schema =>
        have planned (guardrail destinationSchema) : Planned j v.sourceSchema batches
            { scan, decision, guardrail, schema, destinationSchema } :=
          ⟨complete, ⟨v.schemaBefore, hd⟩, not_not.1 blocked, hs⟩
        have quiet : Quiet j (scanChecked v.sourceSchema batches) :=
          (planned [] none).quiet ⟨rfl, rfl⟩
        refine Sat.call_bind (allowed_of quiet trivial) (fun _ => ?_) fun _ => rfl
        refine Program.sat_bind.2 (validateUpsertPolicy_sat quiet fun r => ?_)
        cases r with
        | error e => exact rfl
        | ok destinationSchema =>
          refine early_checkpoint quiet rfl ?_
          exact Sat.call_bind (allowed_of quiet ⟨rfl, rfl, .inr (.inl ⟨rfl, rfl⟩)⟩)
            (fun _ => ⟨rfl, planned _ _⟩) fun _ => rfl

/-- After `prepare_destination` has returned a session. -/
def opened (sourceSchema : ObjectSchema) (batches : List TransferBatch) (schema : ObjectSchema)
    (session : LoadSession) : Progress :=
  { loadingFor sourceSchema batches with prepared := [schema], session := some session }

theorem openSession_sat {v : Validated} :
    Sat (transferProtocol j)
      (EndsEarly j fun t (ps : Plan × LoadSession) => ∃ batches,
        t = opened v.sourceSchema batches ps.1.schema ps.2 ∧
        Planned j v.sourceSchema batches ps.1)
      { inspected := some v.sourceSchema } (openSession j v started) := by
  unfold openSession
  refine Sat.bind scanSource_sat ?_ fun _ _ h => h
  rintro t (_ | scan) h
  · exact h
  obtain ⟨batches, rfl, complete⟩ := h
  refine Sat.bind (decideGuardrails_sat complete) ?_ fun _ _ h => h
  rintro t (_ | plan) h
  · exact h
  obtain ⟨rfl, planned⟩ := h
  have source : (loadingFor v.sourceSchema batches).Source v.sourceSchema batches := ⟨rfl, rfl⟩
  have orderly : Orderly (some j) (loadingFor v.sourceSchema batches)
      (.prepareDestination plan.schema j.snapshot.writePolicy j.run.id) :=
    ⟨rfl, rfl, j, rfl, _, batches, plan, source, planned, rfl⟩
  exact Sat.call_bind (allowed_of (planned.quiet source) orderly)
    (fun session => ⟨batches, rfl, planned⟩) fun _ => rfl

end BeforeSession

/-! ## With an open session -/

/-- What the part of the transfer with an open session works under. -/
structure Loading (j : Job) (sourceSchema : ObjectSchema) (batches : List TransferBatch)
    (plan : Plan) (hmacKey : Bytes) : Prop where
  lawful : j.lib.Lawful
  planned : Planned j sourceSchema batches plan
  key : guardrailHmacKey j plan = .ok hmacKey

/-- In the write loop: some batches are written, and some rows counted. -/
def writing (sourceSchema : ObjectSchema) (batches : List TransferBatch) (schema : ObjectSchema)
    (session : LoadSession) (written : List TransferBatch) (counted : Nat) : Progress :=
  { opened sourceSchema batches schema session with written, counted := some counted }

/-- The session is open, and the source is the one that was scanned. -/
structure Open (sourceSchema : ObjectSchema) (batches : List TransferBatch) (session : LoadSession)
    (t : Progress) : Prop where
  key : t.key = (scanChecked sourceSchema batches).key
  session : t.session = some session

section Load

variable {j : Job} {sourceSchema : ObjectSchema} {batches : List TransferBatch} {plan : Plan}
  {session : LoadSession} {hmacKey : Bytes} {started : Time}

theorem Planned.quiet_of_open (planned : Planned j sourceSchema batches plan)
    {t : Progress} (h : Open sourceSchema batches session t) : Quiet j t :=
  (planned.quiet ⟨rfl, rfl⟩ : Quiet j (scanChecked sourceSchema batches)).of_key h.key

theorem Loading.loads (loading : Loading j sourceSchema batches plan hmacKey)
    {done written : List TransferBatch} {t : Progress} (rest : List TransferBatch)
    (all : batches = done ++ rest) (writes : List.Forall₂ (Writes j plan hmacKey) done written)
    (source : t.Source sourceSchema batches) (prepared : t.prepared = [plan.schema]) :
    Loads j t batches written := by
  refine ⟨sourceSchema, plan, hmacKey, source, loading.planned, prepared, loading.key, ?_⟩
  rw [all, List.take_left' writes.length_eq]
  exact writes

/-- A checkpoint with an open session. -/
theorem Loading.checkpoint_sat (loading : Loading j sourceSchema batches plan hmacKey)
    {α : Type} {t : Progress} {run : PipelineRun} {f : Transfer (Option α)}
    {Q : Progress → Except Exn (Option α) → Prop} (isOpen : Open sourceSchema batches session t)
    (pending : t.finalized = .pending)
    (error : ∀ t e, Open sourceSchema batches session t → t.finalized = .pending → Q t (.error e))
    (cancel : ∀ t, Open sourceSchema batches session t → t.finalized = .pending → Q t (.ok none))
    (pass : Sat (transferProtocol j) Q { t with checked := t.checked || t.closed } f) :
    Sat (transferProtocol j) Q t
      (checkpoint (cancelAfterAbort run session) >>= fun go => if !go then pure none else f) := by
  have quiet := loading.planned.quiet_of_open isOpen
  refine checkpoint_bind quiet (fun e => error t e isOpen pending) ?_ pass
  refine cancelAfterAbort_sat quiet isOpen.session pending fun b r => ?_
  have still : Open sourceSchema batches session
      { t with rolledBack := some b, ending := true } := ⟨isOpen.key, isOpen.session⟩
  cases r with
  | ok _ => exact cancel _ still pending
  | error e => exact error _ e still pending

/-- How an iteration of the write loop ends. -/
def BatchEnds (j : Job) (sourceSchema : ObjectSchema) (batches : List TransferBatch) (plan : Plan)
    (session : LoadSession) (hmacKey : Bytes) (st : LoadState) (before : List TransferBatch)
    (batch : TransferBatch) (t : Progress) : Except Exn (Option LoadState) → Prop
  | .ok (some st') => ∃ written, Writes j plan hmacKey batch written ∧
      t = writing sourceSchema batches plan.schema session (before ++ [written])
        (st.extractedRows + batch.rowCount) ∧
      st'.extractedRows = st.extractedRows + batch.rowCount
  | _ => Open sourceSchema batches session t ∧ t.finalized = .pending

theorem loadBatch_sat (loading : Loading j sourceSchema batches plan hmacKey)
    {done rest written : List TransferBatch} {batch spooled : TransferBatch} {st : LoadState}
    (all : batches = done ++ batch :: rest) (reordered : Reordered batch spooled)
    (writes : List.Forall₂ (Writes j plan hmacKey) done written) :
    Sat (transferProtocol j)
      (BatchEnds j sourceSchema batches plan session hmacKey st written batch)
      (writing sourceSchema batches plan.schema session written st.extractedRows)
      (loadBatch j plan session hmacKey started st spooled) := by
  have isOpen {t : Progress} (hk : t.key = (scanChecked sourceSchema batches).key)
      (hs : t.session = some session) : Open sourceSchema batches session t := ⟨hk, hs⟩
  have quiet {t : Progress} (hk : t.key = (scanChecked sourceSchema batches).key)
      (hs : t.session = some session) : Quiet j t :=
    loading.planned.quiet_of_open ⟨hk, hs⟩
  unfold loadBatch
  refine loading.checkpoint_sat (isOpen rfl rfl) rfl (fun t e ho hp => ⟨ho, hp⟩)
    (fun t ho hp => ⟨ho, hp⟩) ?_
  refine Program.sat_bind.2 (timedOut_sat (quiet rfl rfl) fun r => ?_)
  cases r with
  | error e => exact ⟨isOpen rfl rfl, rfl⟩
  | ok late =>
    cases late with
    | true => exact ⟨isOpen rfl rfl, rfl⟩
    | false =>
      by_cases drift : namesDrifted plan.scan.columns spooled.frame = true
      · simp only [Program.Then, if_pos drift]
        exact ⟨isOpen rfl rfl, rfl⟩
      · simp only [Program.Then, if_neg drift]
        refine Program.sat_bind.2 (Program.sat_lift.2 ?_)
        rw [reordered.writtenBatch_eq (Bool.eq_false_iff.2 drift)]
        cases hw : writtenBatch j.lib plan.scan.columns j.snapshot.writePolicy.columnTypeOverrides
            plan.decision.effective hmacKey batch with
        | error e => exact ⟨isOpen rfl rfl, rfl⟩
        | ok image =>
          have rows : image.rowCount = batch.rowCount :=
            (writtenBatch_image loading.lawful loading.planned.nodup hw).rowCount
          have loads (t : Progress) (source : t.Source sourceSchema batches)
              (prepared : t.prepared = [plan.schema]) : Loads j t batches (written ++ [image]) :=
            loading.loads rest (by rw [all, List.append_assoc]; rfl)
              (List.rel_append writes (.cons hw .nil)) source prepared
          refine Sat.call_bind (allowed_of (quiet rfl rfl) ⟨rfl, rfl⟩) (fun _ => ?_)
            fun _ => ⟨isOpen rfl rfl, rfl⟩
          refine Sat.call_bind (allowed_of (quiet rfl rfl) trivial) (fun _ => ?_)
            fun _ => ⟨isOpen rfl rfl, rfl⟩
          refine Sat.call_bind (allowed_of (quiet rfl rfl)
            ⟨rfl, rfl, j, rfl, batches, loads _ ⟨rfl, rfl⟩ rfl⟩) (fun result => ?_)
            fun _ => ⟨isOpen rfl rfl, rfl⟩
          refine Sat.call_bind (allowed_of (quiet rfl rfl) ⟨rfl, rfl⟩) (fun run => ?_)
            fun _ => ⟨isOpen rfl rfl, rfl⟩
          refine Sat.call_bind (allowed_of (quiet rfl rfl) trivial) (fun _ => ?_)
            fun _ => ⟨isOpen rfl rfl, rfl⟩
          refine ⟨image, hw, ?_, by rw [reordered.rowCount]⟩
          rw [← rows]
          rfl

/-- The loop has written the images of all batches, and counted their rows. -/
def LoopEnds (j : Job) (sourceSchema : ObjectSchema) (batches : List TransferBatch) (plan : Plan)
    (session : LoadSession) (hmacKey : Bytes) (t : Progress) : Except Exn (Option LoadState) → Prop
  | .ok (some st) => ∃ written, List.Forall₂ (Writes j plan hmacKey) batches written ∧
      t = writing sourceSchema batches plan.schema session written (rowTotal batches) ∧
      st.extractedRows = rowTotal batches
  | _ => Open sourceSchema batches session t ∧ t.finalized = .pending

theorem loadLoop_sat (loading : Loading j sourceSchema batches plan hmacKey)
    (done : List TransferBatch) {rest spooled written : List TransferBatch} {st : LoadState}
    (all : batches = done ++ rest) (reordered : List.Forall₂ Reordered rest spooled)
    (writes : List.Forall₂ (Writes j plan hmacKey) done written)
    (rows : st.extractedRows = rowTotal done) :
    Sat (transferProtocol j) (LoopEnds j sourceSchema batches plan session hmacKey)
      (writing sourceSchema batches plan.schema session written st.extractedRows)
      (loadLoop j plan session hmacKey started none st spooled) := by
  induction reordered generalizing done written st with
  | nil =>
    rw [List.append_nil] at all
    subst all
    exact ⟨written, writes, by rw [rows], rows⟩
  | @cons batch spooledBatch rest spooled first others ih =>
    unfold loadLoop
    refine Sat.bind (loadBatch_sat loading all first writes) ?_ fun t e h => h
    rintro t (_ | st') h
    · exact h
    · obtain ⟨image, hw, rfl, rows'⟩ := h
      rw [← rows']
      refine ih (done ++ [batch]) (by rw [all, List.append_assoc]; rfl)
        (List.rel_append writes (.cons hw .nil)) ?_
      rw [rows', rows]
      simp [rowTotal]

/-- How the part of the transfer with an open session ends. -/
def LoadEnds (sourceSchema : ObjectSchema) (batches : List TransferBatch) (session : LoadSession)
    (t : Progress) : Except Exn (Option (LoadState × DestinationManifest)) → Prop
  | .ok (some (st, _)) => Open sourceSchema batches session t ∧ t.finalized = .returned ∧
      t.counted = some (rowTotal batches) ∧ st.extractedRows = rowTotal batches
  | .ok none => Open sourceSchema batches session t ∧ t.finalized = .pending
  | .error e => Open sourceSchema batches session t ∧
      (t.finalized = .pending ∨ t.finalized = .raised ∧ t.raised = some e)

theorem loadAndFinalize_sat (lawful : j.lib.Lawful)
    (planned : Planned j sourceSchema batches plan) :
    Sat (transferProtocol j) (LoadEnds sourceSchema batches session)
      (opened sourceSchema batches plan.schema session) (loadAndFinalize j plan session started) := by
  unfold loadAndFinalize
  refine Program.sat_bind.2 (Program.sat_lift.2 ?_)
  cases hk : guardrailHmacKey j plan with
  | error e => exact ⟨⟨rfl, rfl⟩, .inl rfl⟩
  | ok hmacKey =>
    have loading : Loading j sourceSchema batches plan hmacKey := ⟨lawful, planned, hk⟩
    have isOpen {t : Progress} (hk : t.key = (scanChecked sourceSchema batches).key)
        (hs : t.session = some session) : Open sourceSchema batches session t := ⟨hk, hs⟩
    have quiet {t : Progress} (hk : t.key = (scanChecked sourceSchema batches).key)
        (hs : t.session = some session) : Quiet j t := planned.quiet_of_open ⟨hk, hs⟩
    obtain ⟨spooled, holds, reordered, -⟩ := (scanned_of_scanAll lawful planned.scan).spooled
    simp only [Program.Then, holds.batches_eq]
    have loop : Sat (transferProtocol j) (LoopEnds j sourceSchema batches plan session hmacKey)
        (writing sourceSchema batches plan.schema session [] (LoadState.mk j.run 0 0 0).extractedRows)
        (loadLoop j plan session hmacKey started none { run := j.run } spooled) :=
      loadLoop_sat loading [] rfl reordered .nil rfl
    refine Sat.bind loop ?_ fun t e h => ⟨h.1, .inl h.2⟩
    rintro t (_ | st) h
    · exact h
    obtain ⟨written, writes, rfl, rows⟩ := h
    refine loading.checkpoint_sat (isOpen rfl rfl) rfl (fun t e ho hp => ⟨ho, .inl hp⟩)
      (fun t ho hp => ⟨ho, hp⟩) ?_
    refine Sat.call_bind (allowed_of (quiet rfl rfl) ⟨rfl, rfl, .inr (.inr ⟨rfl, rfl⟩)⟩)
      (fun run => ?_) fun _ => ⟨isOpen rfl rfl, .inl rfl⟩
    refine loading.checkpoint_sat (isOpen rfl rfl) rfl (fun t e ho hp => ⟨ho, .inl hp⟩)
      (fun t ho hp => ⟨ho, hp⟩) ?_
    have orderly : Orderly (some j)
        { writing sourceSchema batches plan.schema session written (rowTotal batches) with
          verifying := true } (.finalize session) :=
      ⟨rfl, rfl, rfl, rfl, rfl, j, rfl, batches,
        loading.loads [] (List.append_nil _).symm writes ⟨rfl, rfl⟩ rfl, writes.length_eq.symm, rfl⟩
    exact Sat.call_bind (allowed_of (quiet rfl rfl) orderly)
      (fun manifest => ⟨isOpen rfl rfl, rfl, rfl, rows⟩) fun _ => ⟨isOpen rfl rfl, .inr ⟨rfl, rfl⟩⟩

end Load

/-! ## The result -/

section Result

variable {j : Job} {sourceSchema : ObjectSchema} {batches : List TransferBatch} {plan : Plan}
  {session : LoadSession} {p : Progress}

theorem refreshPublishedDestinationCache_sat {Q : Progress → Except Exn Unit → Prop}
    (quiet : Quiet j p) (h : Q p (.ok ())) :
    Sat (transferProtocol j) Q p (refreshPublishedDestinationCache j) := by
  have request : Sat (transferProtocol j) Q p
      (do let _ ← attempt (ask .refreshPublishedDestinationCache); return ()) := by
    refine Program.sat_bind.2 (Program.sat_attempt.2 ?_)
    refine Program.sat_call.2 ⟨allowed_of quiet trivial, fun r => ?_⟩
    cases r <;> exact h
  unfold refreshPublishedDestinationCache
  split
  · exact request
  · exact request
  · exact h

theorem recordResult_sat {v : Validated} {st : LoadState}
    {manifest : DestinationManifest} (planned : Planned j sourceSchema batches plan)
    (isOpen : Open sourceSchema batches session p) (returned : p.finalized = .returned)
    (counted : p.counted = some (rowTotal batches)) (rows : st.extractedRows = rowTotal batches) :
    Sat (transferProtocol j)
      (fun t _ => Open sourceSchema batches session t ∧ t.finalized = .returned) p
      (recordResult j v plan st manifest) := by
  have quiet := planned.quiet_of_open isOpen
  have source : p.Source sourceSchema batches :=
    Progress.Source.of_key (p := scanChecked sourceSchema batches) ⟨rfl, rfl⟩ isOpen.key
  have ended : Open sourceSchema batches session { p with ending := true } :=
    ⟨isOpen.key, isOpen.session⟩
  unfold recordResult
  refine Program.sat_bind.2 (destinationRowCount_sat quiet fun rowsAfter => ?_)
  refine Program.sat_bind.2 (inspectDestinationSchema_sat quiet fun schemaAfter => ?_)
  rcases hr : reconcileWriteResult j.lib j.snapshot.writePolicy st.extractedRows manifest
    v.rowsBefore rowsAfter v.destination.capabilities with ⟨level, error, facts⟩
  have reconciled : Reconciled j (rowTotal batches) (verificationOf level facts st manifest) :=
    ⟨manifest, v.rowsBefore, rowsAfter, v.destination.capabilities, level, error, facts, st,
      rows ▸ hr, rfl⟩
  simp only [Program.Then]
  cases error with
  | some summary =>
    refine Sat.call_bind (allowed_of quiet ⟨.inr ⟨rfl, .inl rfl⟩, ?_, ?_⟩) (fun _ => ?_)
      fun _ => ⟨ended, returned⟩
    · exact fun raised => absurd (returned.symm.trans raised) nofun
    · rintro facts' ⟨⟩
      exact ⟨j, rfl, returned, sourceSchema, batches, source, counted, reconciled⟩
    · exact refreshPublishedDestinationCache_sat (planned.quiet_of_open ended)
        ⟨ended, returned⟩
  | none =>
    refine Sat.call_bind (allowed_of quiet
      ⟨returned, j, rfl, returned, sourceSchema, batches, source, counted, reconciled⟩) (fun _ => ?_)
      fun _ => ⟨ended, returned⟩
    exact refreshPublishedDestinationCache_sat (planned.quiet_of_open ended)
        ⟨ended, returned⟩

/-- What an exception of the transfer says of the destination: that nothing can have been committed,
or that it is uncertain; of a run that the worker has lost, nothing. -/
def Truthful (p : Progress) : Exn → Prop
  | .connector e => p.Clean ∨ e.code = .publishUncertain ∧ e.dataImpact = none
  | .runConflict _ => True
  | _ => p.Clean

/-- A truthful exception, which follows from what `finalize` raised. -/
structure Honest (p : Progress) (e : Exn) : Prop where
  truthful : Truthful p e
  rethrown : Rethrown p e

/-- How the transfer ends. -/
def TransferEnds (j : Job) {α : Type} (R : Progress → α → Prop) (t : Progress) :
    Except Exn (Option α) → Prop
  | .ok (some a) => R t a
  | .ok none => Quiet j t
  | .error e => Honest t e

theorem Progress.Clean.truthful (clean : p.Clean) (e : Exn) : Truthful p e := by
  cases e with
  | connector e => exact .inl clean
  | runConflict _ => trivial
  | lookup _ => exact clean
  | value _ => exact clean
  | other _ => exact clean

theorem honest_of_pending (pending : p.finalized = .pending) (e : Exn) : Honest p e :=
  ⟨Progress.Clean.truthful (.inl pending) e, fun raised => absurd (pending.symm.trans raised) nofun⟩

theorem EndsEarly.ends {α : Type} {R : Progress → α → Prop} {r : Except Exn (Option α)}
    (h : EndsEarly j R p r) : TransferEnds j R p r := by
  match r, h with
  | .ok (some a), h => exact h
  | .ok none, h => exact h.2
  | .error e, h => exact honest_of_pending h e

/-- Before a session is open, the `except` block raises the exception again. -/
theorem guarded_none_sat {α : Type} {body : Transfer α} {Q : Progress → Except Exn α → Prop}
    (h : Sat (transferProtocol j) Q p body) :
    Sat (transferProtocol j) Q p (guarded none false body) := by
  unfold guarded
  refine Program.sat_bind.2 (Program.sat_attempt.2 (h.mono fun t r hr => ?_))
  cases r with
  | ok a => exact hr
  | error e => exact hr

/-- What `finalize` has shown when the `except` block is entered with this exception. -/
inductive Entered (p : Progress) (exc : Exn) : Bool → Prop
  | committed (h : p.finalized = .returned) : Entered p exc true
  | unfinished (h : p.finalized = .pending) : Entered p exc false
  | raised (h : p.finalized = .raised) (cause : p.raised = some exc) : Entered p exc false

/-- The `except` block with an open session: it aborts the session, and what it raises is honest. -/
theorem onFailure_sat {α : Type} {committed : Bool} {exc : Exn}
    {Q : Progress → Except Exn α → Prop} (quiet : Quiet j p)
    (isOpen : p.session = some session) (entered : Entered p exc committed)
    (h : ∀ b e, Honest { p with rolledBack := some b } e →
      Q { p with rolledBack := some b } (.error e)) :
    Sat (transferProtocol j) Q p (onFailure (some session) committed exc) := by
  refine Program.sat_bind.2 (Program.sat_bind.2 (abortQuietly_sat quiet isOpen fun b => ?_))
  cases committed with
  | true =>
    cases entered with
    | committed returned =>
      exact h b _ ⟨.inr ⟨rfl, rfl⟩, fun raised => absurd (returned.symm.trans raised) nofun⟩
  | false =>
    have cause (e : Exn) (he : e = rethrown exc b) :
        Rethrown { p with rolledBack := some b } e := by
      intro raised
      cases entered with
      | unfinished pending => exact absurd (pending.symm.trans raised) nofun
      | raised _ cause => exact ⟨exc, cause, b, rfl, he⟩
    have clean : ({ p with rolledBack := some true } : Progress).Clean := by
      cases entered with
      | unfinished pending => exact .inl pending
      | raised raised _ => exact .inr ⟨raised, rfl⟩
    cases b with
    | false =>
      cases exc with
      | runConflict _ => exact h _ _ ⟨trivial, cause _ rfl⟩
      | connector e => exact h _ _ ⟨.inr ⟨rfl, rfl⟩, cause _ rfl⟩
      | lookup _ => exact h _ _ ⟨.inr ⟨rfl, rfl⟩, cause _ rfl⟩
      | value _ => exact h _ _ ⟨.inr ⟨rfl, rfl⟩, cause _ rfl⟩
      | other _ => exact h _ _ ⟨.inr ⟨rfl, rfl⟩, cause _ rfl⟩
    | true =>
      cases exc with
      | runConflict _ => exact h _ _ ⟨trivial, cause _ rfl⟩
      | connector e => exact h _ _ ⟨clean.truthful _, cause _ rfl⟩
      | lookup _ => exact h _ _ ⟨clean.truthful _, cause _ rfl⟩
      | value _ => exact h _ _ ⟨clean.truthful _, cause _ rfl⟩
      | other _ => exact h _ _ ⟨clean.truthful _, cause _ rfl⟩

end Result

/-! ## The worker -/

section Worker

variable {j : Job} {p : Progress}

theorem executeTransfer_sat (lawful : j.lib.Lawful) :
    Sat (transferProtocol j)
      (fun t r => match r with
        | .ok _ => Quiet j t
        | .error e => Honest t e) {} (executeTransfer j) := by
  unfold executeTransfer
  refine Sat.bind validateRoute_sat ?_ fun t e h => honest_of_pending h e
  rintro t (_ | v) h
  · exact h.2
  cases h
  have quiet : Quiet j { inspected := some v.sourceSchema } := quiet_of_unchecked rfl
  refine Sat.call_bind (allowed_of quiet trivial) (fun started => ?_)
    fun e => honest_of_pending rfl e
  refine Sat.bind (guarded_none_sat openSession_sat) ?_
    fun t e h => honest_of_pending h e
  rintro t (_ | ⟨plan, session⟩) h
  · exact h.2
  obtain ⟨batches, rfl, planned⟩ := h
  have load : Sat (transferProtocol j)
      (TransferEnds j fun t (a : LoadState × DestinationManifest) =>
        Open v.sourceSchema batches session t ∧ t.finalized = .returned ∧
          t.counted = some (rowTotal batches) ∧ a.1.extractedRows = rowTotal batches)
      (opened v.sourceSchema batches plan.schema session)
      (guarded (some session) false (loadAndFinalize j plan session started)) := by
    unfold guarded
    refine Program.sat_bind.2 (Program.sat_attempt.2 ((loadAndFinalize_sat lawful planned).mono ?_))
    rintro t (e | _ | ⟨st, manifest⟩) ends
    · have entered : Entered t e false :=
        ends.2.elim .unfinished fun ⟨raised, cause⟩ => .raised raised cause
      exact onFailure_sat (planned.quiet_of_open ends.1) ends.1.session entered
        fun b e h => h
    · exact planned.quiet_of_open ends.1
    · exact ends
  refine Sat.bind load ?_ fun t e h => h
  rintro t (_ | ⟨st, manifest⟩) h
  · exact h
  obtain ⟨isOpen, returned, counted, rows⟩ := h
  refine Program.sat_bind.2 (Program.sat_attempt.2
    ((recordResult_sat planned isOpen returned counted rows).mono ?_))
  rintro t r ⟨isOpen, returned⟩
  cases r with
  | ok _ => exact planned.quiet_of_open isOpen
  | error e =>
    exact onFailure_sat (planned.quiet_of_open isOpen) isOpen.session (.committed returned)
      fun b e h => h

/-- The job of a worker, when the snapshot of its run can be read. -/
def WorkerEnv.job? (env : WorkerEnv) (run : PipelineRun) : Option Job :=
  (env.parseSnapshot run.definitionSnapshotJson).toOption.map (env.job run)

theorem transferRun_sat {env : WorkerEnv} {run : PipelineRun} (lawful : env.lib.Lawful) :
    Sat (workerProtocol (env.job? run))
      (fun t r => match r with
        | .ok _ => True
        | .error e => Honest t e) {} (transferRun env run) := by
  have clean (e : Exn) : Honest {} e := honest_of_pending rfl e
  unfold transferRun
  refine Program.sat_bind.2 (Program.sat_lift.2 ?_)
  cases hs : env.parseSnapshot run.definitionSnapshotJson with
  | error e => exact clean e
  | ok snapshot =>
    refine Sat.call_bind trivial (fun _ => ?_) clean
    refine Sat.call_bind trivial (fun _ => ?_) clean
    refine Program.sat_bind.2 (Program.sat_lift.2 ?_)
    cases checkPublicationTarget snapshot with
    | error e => exact clean e
    | ok _ =>
      have job : env.job? run = some (env.job run snapshot) := by
        rw [WorkerEnv.job?, hs]
        rfl
      rw [job]
      have transfer : Sat (workerProtocol (some (env.job run snapshot))) _ {} _ :=
        (executeTransfer_sat lawful).weaken (fun _ _ h => h.1) rfl
      refine transfer.mono fun t r h => ?_
      cases r with
      | ok _ => trivial
      | error e => exact h

section Failure

variable {job : Option Job} {env : WorkerEnv}

theorem failRun_sat {a : PipelineRun.FailArgs} {Q : Progress → Except Exn Unit → Prop}
    (honest : p.Clean ∨ UncertainFailure a) (cause : RecordsCause p a)
    (facts : a.verificationFacts = none) (h : ∀ r, Q { p with ending := true } r) :
    Sat (workerProtocol job) Q p (failRun a) := by
  refine Sat.call_bind ⟨honest, cause, ?_⟩ (fun _ => h _) fun _ => h _
  rw [facts]
  exact nofun

theorem ignoringConflict_sat {body : Transfer Unit}
    (h : Sat (workerProtocol job) (fun _ _ => True) p body) :
    Sat (workerProtocol job) (fun _ _ => True) p (ignoringConflict body) := by
  unfold ignoringConflict
  refine Program.sat_bind.2 (Program.sat_attempt.2 (h.mono fun t r _ => ?_))
  cases r with
  | ok _ => trivial
  | error e => cases e <;> trivial

theorem recordConnectorError_sat {failed : PipelineRun} {e : ConnectorError}
    (honest : Honest p (.connector e)) :
    Sat (workerProtocol job) (fun _ _ => True) p (recordConnectorError env failed e) := by
  have failure : p.Clean ∨ UncertainFailure (connectorFailure e) := by
    rcases honest.truthful with clean | ⟨code, impact⟩
    · exact .inl clean
    · exact .inr ⟨impact, .inr (by rw [connectorFailure, code])⟩
  have notReady (h : e.code = .computeNotReady) : p.Clean := by
    rcases honest.truthful with clean | ⟨code, -⟩
    · exact clean
    · rw [h] at code
      cases code
  have cause : RecordsCause p (connectorFailure e) := fun _ => ⟨e, honest.rethrown, rfl⟩
  unfold recordConnectorError
  split_ifs with defer block
  · refine Sat.call_bind (notReady defer.1) (fun released => ?_) fun _ => trivial
    cases released with
    | true => trivial
    | false =>
      exact failRun_sat (.inl (notReady defer.1)) cause rfl fun _ => trivial
  · exact Sat.call_bind (notReady block.1) (fun _ => trivial) fun _ => trivial
  · exact failRun_sat failure cause rfl fun _ => trivial

theorem onTransferFailure_sat {e : Exn} (honest : Honest p e) :
    Sat (workerProtocol job) (fun _ _ => True) p (onTransferFailure env e) := by
  have other (notConnector : ∀ ce, e ≠ .connector ce) (notConflict : ∀ m, e ≠ .runConflict m) :
      p.finalized ≠ .raised := by
    intro raised
    obtain ⟨cause, -, b, -, rfl⟩ := honest.rethrown raised
    cases b <;> cases cause <;>
      first | exact notConnector _ rfl | exact notConflict _ rfl
  -- an exception of another class never follows from what `finalize` raised
  have unexpected (clean : p.Clean) (pending : p.finalized ≠ .raised) :
      Sat (workerProtocol job) (fun _ _ => True) p (onTransferFailure env (.other "")) := by
    refine Sat.call_bind trivial (fun _ => ?_) fun _ => trivial
    refine Sat.call_bind trivial (fun found => ?_) fun _ => trivial
    cases found with
    | none => trivial
    | some _ =>
      exact ignoringConflict_sat
        (failRun_sat (.inl clean) (fun raised => absurd raised pending) rfl fun _ => trivial)
  cases e with
  | connector e =>
    refine Sat.call_bind trivial (fun _ => ?_) fun _ => trivial
    refine Sat.call_bind trivial (fun found => ?_) fun _ => trivial
    cases found with
    | none => trivial
    | some failed => exact ignoringConflict_sat (recordConnectorError_sat honest)
  | runConflict _ => exact Sat.call_bind trivial (fun _ => trivial) fun _ => trivial
  | lookup _ => exact unexpected honest.truthful (other (by simp) (by simp))
  | value _ => exact unexpected honest.truthful (other (by simp) (by simp))
  | other _ => exact unexpected honest.truthful (other (by simp) (by simp))

end Failure

/-- `process_one` follows the protocol. -/
theorem processOne_sat {env : WorkerEnv} {run : PipelineRun} (lawful : env.lib.Lawful) :
    Sat (workerProtocol (env.job? run)) (fun _ _ => True) {} (processOne env run) := by
  unfold processOne
  refine Sat.call_bind trivial (fun owner => ?_) fun _ => trivial
  match owner with
  | none => exact failRun_sat (.inl (.inl rfl)) nofun rfl fun _ => trivial
  | some false => exact Sat.call_bind rfl (fun _ => trivial) fun _ => trivial
  | some true =>
    refine Program.sat_bind.2 (Program.sat_attempt.2 ((transferRun_sat lawful).mono fun t r h => ?_))
    cases r with
    | ok _ => trivial
    | error e => exact onTransferFailure_sat h

end Worker

end DataMover
