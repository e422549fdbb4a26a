import DataMover.Publication.Ledger
import DataMover.Transition

/-!
# Publication and recovery

Workers record their publications in the order in which the connector writes, and recovery passes run
beside them: a pass claims a record, reads its operation, calls the provider and writes what it
concluded.  The last write of a pass asks for the confirmation of a commit but not whether one was
submitted since the pass read its operation; a worker that submits in between loses its target
(`submitted_recorded_unchanged`).  As long as every submission finds its target still held and no pass
that has read its operation owning the record, a submitted publication keeps its target until it is
confirmed (`submitted_keeps_target`).
-/

namespace DataMover

open Transition

/-! ## The order of the worker's events -/

/-- How far the connector has come with a run. -/
inductive WriterPhase where
  | start
  | prepared
  | staged
  | submitted
  | published
  | aborting
  | stopped
  deriving DecidableEq, Repr

namespace WriterPhase

/-- The phase after an event that was recorded; `none` when the connector does not emit it here. -/
def next : WriterPhase → PublicationEvent → Option WriterPhase
  | start, .prepareStarted => some prepared
  | prepared, .stagingReady => some staged
  | prepared, .abortUncertain _ => some stopped
  | staged, .batchWritten _ _ => some staged
  | staged, .publishSubmitted => some submitted
  | staged, .abortConfirmed | staged, .abortUncertain _ => some aborting
  | aborting, .abortConfirmed | aborting, .abortUncertain _ => some aborting
  | submitted, .committed => some published
  | submitted, .publishUncertain _ => some submitted
  | published, .cleanupPending | published, .cleanupConfirmed => some stopped
  | _, _ => none

/-- The phase after an event whose recording raised. -/
def failed : PublicationEvent → WriterPhase
  | .prepareStarted | .stagingReady => stopped
  | .batchWritten _ _ | .publishSubmitted | .abortConfirmed | .abortUncertain _ => aborting
  | .committed | .publishUncertain _ => submitted
  | .cleanupPending | .cleanupConfirmed => stopped

/-- A worker whose event was not recorded neither stages nor cleans up after a publication. -/
theorem failed_notMem (event : PublicationEvent) :
    failed event ∉ [prepared, staged] ∧ failed event ≠ published := by
  cases event <;> simp [failed]

end WriterPhase

/-! ## Recovery passes -/

/-- What a pass reads of its record before it calls the provider. -/
structure RecoveryOperation where
  state : PublicationState
  submissionId : String
  deriving DecidableEq

/-- A pass of `process_pending_publication_recovery` after its claim. -/
structure RecoveryPass where
  runId : String
  token : String
  operation : Option RecoveryOperation := none
  deriving DecidableEq

/-- Whether a pass may use the credentials of the record's owner. -/
inductive RecoveryAccess where
  | ownerUnavailable
  | credentialsUnavailable
  | credentialsStale
  | granted
  deriving DecidableEq

/-- What `reconcile_publication` tells a pass. -/
inductive ReconcileReply where
  | committed
  | unconfirmed
  | raised (code summary : String)
  deriving DecidableEq

/-- What `cleanup_staging` tells a pass. -/
inductive CleanupReply where
  | dropped
  | raised (code summary : String)
  deriving DecidableEq

/-- The tables, the workers and the passes. -/
structure Publishing where
  clock : Time
  runs : String → Option RunLease
  table : PublicationTable
  phases : String → WriterPhase
  passes : List RecoveryPass
  tokens : List String

inductive PublishingEvent where
  | runChanges (runId : String) (run : Option RunLease)
  | writerRecords (runId : String) (event : PublicationEvent) (replyLost : Bool)
  | passClaims (runId token : String)
  | passReads (pass : Nat) (access : RecoveryAccess)
  | passReconciles (pass : Nat) (reply : ReconcileReply)
  | passCleans (pass : Nat) (reply : CleanupReply)
  | passCrashes (pass : Nat)

namespace Publishing

/-- The record of a pass, while the pass owns it. -/
def owned (s : Publishing) (p : RecoveryPass) : Option Publication :=
  (s.table.get p.runId).filter fun r => r.recoveryToken = some p.token

/-- A pass ends, after it has written its record when it still owns it. -/
def endPass (s : Publishing) (pass : Nat) (p : RecoveryPass) (write : Publication → Publication) :
    Publishing :=
  { s with
    passes := s.passes.eraseIdx pass
    table := match s.owned p with
      | none => s.table
      | some r => match s.table.commit (write r) with
        | .ok table => table
        | .error _ => s.table }

/-- The second transaction of a pass. -/
def passReads (now : Time) (s : Publishing) (pass : Nat) (p : RecoveryPass) :
    RecoveryAccess → Publishing
  | .ownerUnavailable => s.endPass pass p (.deferRecovery now "owner_unavailable"
      "The connection owner is unavailable for Databricks recovery." 300 none)
  | .credentialsUnavailable => s.endPass pass p fun r => r.deferRecovery now
      "credentials_unavailable"
      "The saved Databricks credentials are unavailable for staging recovery." 300
      (some (if r.confirmedAt.isNone then .cleanupRequired else .cleanupPending))
  | .credentialsStale => s.endPass pass p fun r => r.deferRecovery now "credentials_stale"
      "The Databricks connection changed; confirm the current identity before recovery." 3600
      (some (if r.confirmedAt.isNone then .cleanupRequired else .cleanupPending))
  | .granted =>
    match s.owned p with
    | none => { s with passes := s.passes.eraseIdx pass }
    | some r =>
      { s with passes := s.passes.set pass { p with operation := some ⟨r.state, r.submissionId⟩ } }

/-- The transaction after `reconcile_publication`. -/
def passReconciles (now : Time) (s : Publishing) (pass : Nat) (p : RecoveryPass)
    (op : RecoveryOperation) : ReconcileReply → Publishing
  | .committed =>
    match s.owned p with
    | none => { s with passes := s.passes.eraseIdx pass }
    | some r => match s.table.commit (r.confirmCommit now op.submissionId) with
      | .ok table => { s with
          table := table
          passes := s.passes.set pass
            { p with operation := some { op with state := .cleanupPending } } }
      | .error _ => s
  | .unconfirmed => s.endPass pass p (.deferRecovery now "publish_unconfirmed"
      "No exact Databricks commit marker was found; the result remains uncertain." 300
      (some .uncertain))
  | .raised code summary =>
    s.endPass pass p (.deferRecovery now code summary 300 (some .uncertain))

/-- The transaction after `cleanup_staging`. -/
def passCleans (now : Time) (s : Publishing) (pass : Nat) (p : RecoveryPass) :
    CleanupReply → Publishing
  | .dropped => s.endPass pass p (.finishRecovery now)
  | .raised code summary =>
    s.endPass pass p (.deferRecovery now code summary 300 (some .cleanupPending))

/-- One transaction of a worker or of a pass, or a change of a run by the run service. -/
def step (writers : String → PublicationWriter) (s : Publishing) (i : Time × PublishingEvent) :
    Option Publishing :=
  if i.1 < s.clock then none
  else
    let s := { s with clock := i.1 }
    match i.2 with
    | .runChanges runId run => some { s with runs := fun id => if id = runId then run else s.runs id }
    | .writerRecords runId event replyLost =>
      ((s.phases runId).next event).map fun next =>
        match recordPublicationEvent i.1 s.table (s.runs runId) runId (writers runId) event with
        | .ok table => { s with
            table := table
            phases := fun id =>
              if id = runId then (if replyLost then .failed event else next) else s.phases id }
        | .error _ =>
          { s with phases := fun id => if id = runId then .failed event else s.phases id }
    | .passClaims runId token =>
      match s.table.get runId, s.runs runId with
      | some r, some run =>
        if r.RecoveryCandidate i.1 run ∧ token ∉ s.tokens then
          match s.table.commit (r.claimRecovery i.1 token) with
          | .ok table => some { s with
              table := table
              passes := s.passes ++ [{ runId := runId, token := token }]
              tokens := token :: s.tokens }
          | .error _ => none
        else none
      | _, _ => none
    | .passReads pass access =>
      match s.passes[pass]? with
      | some p => if p.operation.isNone then some (s.passReads i.1 pass p access) else none
      | none => none
    | .passReconciles pass reply =>
      match s.passes[pass]? with
      | some p => match p.operation with
        | some op =>
          if op.state ∈ PublicationState.submittedStates then
            some (s.passReconciles i.1 pass p op reply)
          else none
        | none => none
      | none => none
    | .passCleans pass reply =>
      match s.passes[pass]? with
      | some p => match p.operation with
        | some op =>
          if op.state ∉ PublicationState.submittedStates then some (s.passCleans i.1 pass p reply)
          else none
        | none => none
      | none => none
    | .passCrashes pass => some { s with passes := s.passes.eraseIdx pass }

/-- Any interleaving of workers, passes and lease changes, from an empty ledger. -/
def system (writers : String → PublicationWriter) : System Publishing (Time × PublishingEvent) :=
  System.ofStep (step writers) fun s =>
    s.table.records = [] ∧ s.passes = [] ∧ ∀ runId, s.phases runId = .start

/-- A submission finds its target still held, and no pass that has read its operation owning the
record. -/
def SubmitsFenced (s : Publishing) (i : Time × PublishingEvent) : Prop :=
  ∀ runId replyLost, i.2 = .writerRecords runId .publishSubmitted replyLost →
    ∀ r ∈ s.table.records, r.runId = runId → r.activeTargetKey = some r.targetKey ∧
      ∀ p ∈ s.passes, p.runId = runId → p.operation.isSome → r.recoveryToken ≠ some p.token

end Publishing

/-! ## The invariant -/

/-- The statement was submitted and its outcome is not confirmed. -/
def Publication.Outstanding (r : Publication) : Prop :=
  r.submittedAt.isSome ∧ r.confirmedAt = none

/-- What a record satisfies next to its writer's phase, the passes and the tokens in use. -/
structure Publication.Sound (phase : WriterPhase) (passes : List RecoveryPass)
    (tokens : List String) (r : Publication) : Prop where
  held : r.Outstanding → r.state ∈ [.publishing, .uncertain, .cleanupRequired] ∧
    r.activeTargetKey = some r.targetKey
  owned : r.recoveryToken.isSome → r.state ≠ .cleanupRequired
  token : ∀ t ∈ r.recoveryToken, t ∈ tokens
  unsubmitted : phase ∈ [WriterPhase.prepared, .staged] → r.submittedAt = none
  confirmed : phase = .published → r.confirmedAt.isSome
  passes : ∀ p ∈ passes, p.runId = r.runId → r.recoveryToken = some p.token → ∀ op ∈ p.operation,
    op.state ∉ PublicationState.submittedStates → ¬ r.Outstanding

namespace Publication.Sound

variable {phase : WriterPhase} {passes passes' : List RecoveryPass} {tokens tokens' : List String}
  {r r' : Publication}

/-- Fewer passes, more tokens. -/
theorem mono (h : r.Sound phase passes tokens) (hp : ∀ p ∈ passes', p ∈ passes)
    (ht : ∀ t ∈ tokens, t ∈ tokens') : r.Sound phase passes' tokens' where
  held := h.held
  owned := h.owned
  token t hr := ht t (h.token t hr)
  unsubmitted := h.unsubmitted
  confirmed := h.confirmed
  passes p hmem := h.passes p (hp p hmem)

/-- A phase that promises nothing. -/
theorem of_phase (h : r.Sound phase passes tokens) {phase' : WriterPhase}
    (hu : phase' ∈ [WriterPhase.prepared, .staged] → r.submittedAt = none)
    (hc : phase' = .published → r.confirmedAt.isSome) : r.Sound phase' passes tokens where
  held := h.held
  owned := h.owned
  token := h.token
  unsubmitted := hu
  confirmed := hc
  passes := h.passes

/-- A write that makes nothing outstanding and takes no recovery token. -/
theorem write (h : r.Sound phase passes tokens) {phase' : WriterPhase} (run : r'.runId = r.runId)
    (token : ∀ t, r'.recoveryToken = some t → r.recoveryToken = some t)
    (owned : r'.recoveryToken.isSome → r'.state ≠ .cleanupRequired)
    (outstanding : r'.Outstanding → r.Outstanding)
    (held : r'.Outstanding → r'.state ∈ [.publishing, .uncertain, .cleanupRequired] ∧
      r'.activeTargetKey = some r'.targetKey)
    (unsubmitted : phase' ∈ [WriterPhase.prepared, .staged] → r'.submittedAt = none)
    (confirmed : phase' = .published → r'.confirmedAt.isSome) : r'.Sound phase' passes tokens where
  held := held
  owned := owned
  token t ht := h.token t (token t ht)
  unsubmitted := unsubmitted
  confirmed := confirmed
  passes p hp hid ht op hop early out :=
    h.passes p hp (hid.trans run) (token _ ht) op hop early (outstanding out)

theorem deferRecovery (h : r.Sound phase passes tokens) (now : Time) (code summary : String)
    (delay : Int) {state : Option PublicationState}
    (keeps : r.Outstanding → state.getD r.state ∈ [.publishing, .uncertain, .cleanupRequired]) :
    (r.deferRecovery now code summary delay state).Sound phase passes tokens :=
  h.write rfl nofun nofun id (fun out => ⟨keeps out, (h.held out).2⟩) h.unsubmitted h.confirmed

/-- A deferral for missing credentials parks an unconfirmed record. -/
theorem deferCredentials (h : r.Sound phase passes tokens) (now : Time) (code summary : String)
    (delay : Int) :
    (r.deferRecovery now code summary delay
      (some (if r.confirmedAt.isNone then .cleanupRequired else .cleanupPending))).Sound
      phase passes tokens := by
  refine h.deferRecovery now code summary delay fun out => ?_
  simp [out.2]

theorem finishRecovery (h : r.Sound phase passes tokens) (settled : ¬ r.Outstanding) (now : Time) :
    (r.finishRecovery now).Sound phase passes tokens :=
  h.write rfl nofun nofun id (fun out => absurd out settled) h.unsubmitted h.confirmed

theorem confirmCommit (h : r.Sound phase passes tokens) (now : Time) (submissionId : String)
    (passes' : List RecoveryPass) : (r.confirmCommit now submissionId).Sound phase passes' tokens where
  held out := by simp [Outstanding, Publication.confirmCommit] at out
  owned _ := by simp [Publication.confirmCommit]
  token := h.token
  unsubmitted := h.unsubmitted
  confirmed _ := rfl
  passes p _ _ _ op _ _ out := by simp [Outstanding, Publication.confirmCommit] at out

theorem claimRecovery (h : r.Sound phase passes tokens) (now : Time) {token : String}
    (recoverable : r.state ∈ PublicationState.recoverable)
    (fresh : ∀ p ∈ passes, p.operation.isSome → p.token ≠ token) :
    (r.claimRecovery now token).Sound phase passes (token :: tokens) where
  held := h.held
  owned _ hs := by
    rw [show r.state = .cleanupRequired from hs] at recoverable
    exact absurd recoverable (by decide)
  token t ht := by
    simp only [Publication.claimRecovery, Option.mem_def, Option.some.injEq] at ht
    simp [ht]
  unsubmitted := h.unsubmitted
  confirmed := h.confirmed
  passes p hp _ ht op hop := by
    simp only [Publication.claimRecovery, Option.some.injEq] at ht
    exact absurd ht.symm (fresh p hp (by simp [Option.mem_def.1 hop]))

/-- An event of the worker, in the order of the connector, keeps a record sound. -/
theorem apply (h : r.Sound phase passes tokens) {now : Time} {w : PublicationWriter}
    {event : PublicationEvent} {next : WriterPhase} (hnext : phase.next event = some next)
    (key : r.targetKey = w.targetKey) (hr : r.apply now w event = .ok r')
    (fenced : event = .publishSubmitted → r.activeTargetKey = some r.targetKey ∧
      ∀ p ∈ passes, p.runId = r.runId → p.operation.isSome → r.recoveryToken ≠ some p.token)
    (replyLost : Bool) :
    r'.Sound (if replyLost then .failed event else next) passes tokens := by
  cases event with
  | prepareStarted => cases hr
  | stagingReady =>
    cases phase <;> cases hnext
    have unsubmitted : r.submittedAt = none := h.unsubmitted (by decide)
    cases hr
    refine h.write rfl (fun _ => id) (fun _ => by simp) id (fun out => ?_) (fun _ => unsubmitted) ?_
    · simp [Outstanding, unsubmitted] at out
    · cases replyLost <;> simp [WriterPhase.failed]
  | batchWritten rows bytes =>
    cases phase <;> cases hnext
    have unsubmitted : r.submittedAt = none := h.unsubmitted (by decide)
    cases hr
    refine h.write rfl (fun _ => id) h.owned id h.held (fun _ => unsubmitted) ?_
    cases replyLost <;> simp [WriterPhase.failed]
  | publishSubmitted =>
    obtain ⟨active, noReader⟩ := fenced rfl
    cases phase <;> cases hnext
    cases hr
    refine ⟨fun _ => ⟨by simp, active⟩, fun _ => by simp, h.token, ?_, ?_, ?_⟩
    · cases replyLost <;> simp [WriterPhase.failed]
    · cases replyLost <;> simp [WriterPhase.failed]
    · intro p hp hid ht op hop
      exact absurd ht (noReader p hp hid (by simp [Option.mem_def.1 hop]))
  | committed =>
    cases phase <;> cases hnext
    cases hr
    refine h.write rfl (fun _ => id) (fun _ => by simp) (fun out => ?_) (fun out => ?_) ?_
      (fun _ => rfl)
    · simp [Outstanding] at out
    · simp [Outstanding] at out
    · cases replyLost <;> simp [WriterPhase.failed]
  | publishUncertain error =>
    cases phase <;> cases hnext
    cases hr
    refine h.write rfl (fun _ => id) (fun _ => by simp) id (fun _ => ⟨by simp, by simp [key]⟩) ?_ ?_
    · cases replyLost <;> simp [WriterPhase.failed]
    · cases replyLost <;> simp [WriterPhase.failed]
  | cleanupPending =>
    cases phase <;> cases hnext
    have confirmed := h.confirmed rfl
    cases hr
    refine h.write rfl (fun _ => id) (fun _ => by simp) id (fun out => ?_) ?_ (fun _ => confirmed)
    · rw [out.2] at confirmed
      cases confirmed
    · cases replyLost <;> simp [WriterPhase.failed]
  | cleanupConfirmed =>
    cases phase <;> cases hnext
    have confirmed := h.confirmed rfl
    cases hr
    refine h.write rfl nofun nofun id (fun out => ?_) ?_ (fun _ => confirmed)
    · rw [out.2] at confirmed
      cases confirmed
    · cases replyLost <;> simp [WriterPhase.failed]
  | abortConfirmed =>
    simp only [Publication.apply] at hr
    split_ifs at hr with submitted
    cases hr
    refine h.write rfl (fun _ => id) (fun _ => by simp) id (fun out => absurd out.1 submitted) ?_ ?_
    · exact fun _ => by simpa using submitted
    · cases phase <;> cases hnext <;> cases replyLost <;> simp [WriterPhase.failed]
  | abortUncertain error =>
    cases hr
    refine h.write rfl (fun _ => id) ?_ id (fun out => ⟨by simp [out.1], by simp [key]⟩) ?_ ?_
    · intro _
      simp only
      split_ifs <;> simp
    · cases phase <;> cases hnext <;> cases replyLost <;> simp [WriterPhase.failed]
    · cases phase <;> cases hnext <;> cases replyLost <;> simp [WriterPhase.failed]

end Publication.Sound

namespace Publishing

/-- Every record is sound, and the tokens of the passes are in use. -/
structure Sound (s : Publishing) : Prop where
  records : ∀ r ∈ s.table.records, r.Sound (s.phases r.runId) s.passes s.tokens
  tokens : ∀ p ∈ s.passes, p.token ∈ s.tokens

variable {s s' : Publishing} {p : RecoveryPass} {r : Publication} {now : Time} {pass : Nat}

theorem mem_of_owned (h : s.owned p = some r) :
    r ∈ s.table.records ∧ r.runId = p.runId ∧ r.recoveryToken = some p.token := by
  obtain ⟨hget, ht⟩ := Option.filter_eq_some_iff.1 h
  obtain ⟨hr, hid⟩ := PublicationTable.mem_of_get hget
  exact ⟨hr, hid, by simpa using ht⟩

namespace Sound

/-- One record is replaced by a sound one. -/
theorem records_of_commit {t' : PublicationTable} {record : Publication} {phase : WriterPhase}
    {passes : List RecoveryPass} {tokens : List String} {phases : String → WriterPhase}
    (hc : s.table.commit record = .ok t')
    (others : ∀ r ∈ s.table.records, r.runId ≠ record.runId → r.Sound (phases r.runId) passes tokens)
    (this : record.Sound phase passes tokens) (hphase : phases record.runId = phase) :
    ∀ r ∈ t'.records, r.Sound (phases r.runId) passes tokens := by
  intro r hr
  rcases PublicationTable.mem_of_commit hc hr with rfl | ⟨hr, hid⟩
  · rw [hphase]
    exact this
  · exact others r hr hid

theorem erase (h : s.Sound) (pass : Nat) : Sound { s with passes := s.passes.eraseIdx pass } where
  records r hr := (h.records r hr).mono (fun _ => List.mem_of_mem_eraseIdx) fun _ => id
  tokens q hq := h.tokens q (List.mem_of_mem_eraseIdx hq)

/-- A pass that writes a sound record leaves a sound ledger. -/
theorem endPass (h : s.Sound) {write : Publication → Publication}
    (run : ∀ r, (write r).runId = r.runId)
    (sound : ∀ r, s.owned p = some r → (write r).Sound (s.phases r.runId) s.passes s.tokens) :
    (s.endPass pass p write).Sound := by
  refine ⟨?_, fun q hq => h.tokens q (List.mem_of_mem_eraseIdx hq)⟩
  have erased := (h.erase pass).records
  intro r hr
  simp only [Publishing.endPass] at hr ⊢
  split at hr
  · exact erased r hr
  · rename_i r₀ howned
    split at hr
    · rename_i table hc
      refine records_of_commit hc (fun r hr _ => erased r hr) ?_ (by rw [run]) r hr
      exact (sound r₀ howned).mono (fun _ => List.mem_of_mem_eraseIdx) fun _ => id
    · exact erased r hr

theorem passReads (h : s.Sound) (hp : s.passes[pass]? = some p) (access : RecoveryAccess) :
    (s.passReads now pass p access).Sound := by
  have record {r : Publication} (ho : s.owned p = some r) := h.records r (mem_of_owned ho).1
  cases access with
  | ownerUnavailable =>
    exact h.endPass (fun _ => rfl) fun r ho =>
      (record ho).deferRecovery now _ _ _ fun out => ((record ho).held out).1
  | credentialsUnavailable =>
    exact h.endPass (fun _ => rfl) fun r ho => (record ho).deferCredentials now _ _ _
  | credentialsStale =>
    exact h.endPass (fun _ => rfl) fun r ho => (record ho).deferCredentials now _ _ _
  | granted =>
    simp only [Publishing.passReads]
    split
    · exact h.erase pass
    · rename_i r ho
      obtain ⟨hr, hid, ht⟩ := mem_of_owned ho
      constructor
      · intro r' hr'
        refine { h.records r' hr' with passes := fun q hq hqid hqt op hop early => ?_ }
        rcases List.mem_or_eq_of_mem_set hq with hq | rfl
        · exact (h.records r' hr').passes q hq hqid hqt op hop early
        · -- the pass has just read the state of the record it owns
          obtain rfl : r = r' := PublicationTable.eq_of_runId_eq hr hr' (hid.trans hqid)
          cases hop
          intro out
          have state := ((h.records r hr).held out).1
          have unparked := (h.records r hr).owned (by rw [ht]; rfl)
          simp only [PublicationState.submittedStates, List.mem_cons, List.not_mem_nil, or_false,
            not_or] at early state
          rcases state with hs | hs | hs
          · exact early.1 hs
          · exact early.2 hs
          · exact unparked hs
      · intro q hq
        rcases List.mem_or_eq_of_mem_set hq with hq | rfl
        · exact h.tokens q hq
        · exact h.tokens p (List.mem_of_getElem? hp)

theorem passReconciles (h : s.Sound) (hp : s.passes[pass]? = some p) (op : RecoveryOperation)
    (reply : ReconcileReply) : (s.passReconciles now pass p op reply).Sound := by
  have record {r : Publication} (ho : s.owned p = some r) := h.records r (mem_of_owned ho).1
  cases reply with
  | committed =>
    simp only [Publishing.passReconciles]
    split
    · exact h.erase pass
    · rename_i r ho
      obtain ⟨hr, hid, ht⟩ := mem_of_owned ho
      split
      · rename_i table hc
        constructor
        · refine records_of_commit hc (fun r' hr' hne => ?_) ((record ho).confirmCommit now _ _) rfl
          refine { h.records r' hr' with passes := fun q hq hqid hqt op hop early => ?_ }
          rcases List.mem_or_eq_of_mem_set hq with hq | rfl
          · exact (h.records r' hr').passes q hq hqid hqt op hop early
          · exact absurd (hqid.symm.trans hid.symm) hne
        · intro q hq
          rcases List.mem_or_eq_of_mem_set hq with hq | rfl
          · exact h.tokens q hq
          · exact h.tokens p (List.mem_of_getElem? hp)
      · exact h
  | unconfirmed =>
    exact h.endPass (fun _ => rfl) fun r ho => (record ho).deferRecovery now _ _ _ fun _ => by simp
  | raised code summary =>
    exact h.endPass (fun _ => rfl) fun r ho => (record ho).deferRecovery now _ _ _ fun _ => by simp

theorem passCleans (h : s.Sound) (hp : s.passes[pass]? = some p) {op : RecoveryOperation}
    (hop : p.operation = some op) (early : op.state ∉ PublicationState.submittedStates)
    (reply : CleanupReply) : (s.passCleans now pass p reply).Sound := by
  have settled {r : Publication} (ho : s.owned p = some r) : ¬ r.Outstanding := by
    obtain ⟨hr, hid, ht⟩ := mem_of_owned ho
    exact (h.records r hr).passes p (List.mem_of_getElem? hp) hid.symm ht op hop early
  cases reply with
  | dropped =>
    change (s.endPass pass p (.finishRecovery now)).Sound
    exact h.endPass (fun _ => rfl) fun r ho =>
      (h.records r (mem_of_owned ho).1).finishRecovery (settled ho) now
  | raised code summary =>
    exact h.endPass (fun _ => rfl) fun r ho =>
      (h.records r (mem_of_owned ho).1).deferRecovery now _ _ _ fun out => absurd out (settled ho)

theorem passClaims (h : s.Sound) {runId token : String} {run : RunLease} {t' : PublicationTable}
    (hget : s.table.get runId = some r) (candidate : r.RecoveryCandidate now run)
    (fresh : token ∉ s.tokens) (hc : s.table.commit (r.claimRecovery now token) = .ok t') :
    Sound { s with
      table := t'
      passes := s.passes ++ [{ runId := runId, token := token }]
      tokens := token :: s.tokens } := by
  obtain ⟨hr, hid⟩ := PublicationTable.mem_of_get hget
  have added {r : Publication} {phase : WriterPhase} {tokens : List String}
      (h : r.Sound phase s.passes tokens) :
      r.Sound phase (s.passes ++ [{ runId := runId, token := token }]) tokens := by
    refine { h with passes := fun q hq hqid hqt op hop early => ?_ }
    rcases List.mem_append.1 hq with hq | hq
    · exact h.passes q hq hqid hqt op hop early
    · rw [List.mem_singleton.1 hq] at hop
      cases hop
  constructor
  · refine records_of_commit hc (fun r' hr' _ => ?_) (added ?_) rfl
    · exact added ((h.records r' hr').mono (fun _ => id) fun _ => List.mem_cons_of_mem token)
    · refine (h.records r hr).claimRecovery now candidate.1 fun q hq _ same => ?_
      exact fresh (same ▸ h.tokens q hq)
  · intro q hq
    rcases List.mem_append.1 hq with hq | hq
    · exact List.mem_cons_of_mem token (h.tokens q hq)
    · rw [List.mem_singleton.1 hq]
      exact List.mem_cons_self

theorem writerRecords (h : s.Sound) {run : Option RunLease} {runId : String}
    {w : PublicationWriter} {event : PublicationEvent} {next : WriterPhase} {t' : PublicationTable}
    (hnext : (s.phases runId).next event = some next)
    (hrec : recordPublicationEvent now s.table run runId w event = .ok t')
    (fenced : event = .publishSubmitted → ∀ r ∈ s.table.records, r.runId = runId →
      r.activeTargetKey = some r.targetKey ∧
        ∀ p ∈ s.passes, p.runId = runId → p.operation.isSome → r.recoveryToken ≠ some p.token)
    (replyLost : Bool) :
    Sound { s with
      table := t'
      phases := fun id =>
        if id = runId then (if replyLost then .failed event else next) else s.phases id } := by
  refine ⟨?_, h.tokens⟩
  rcases recordPublicationEvent_ok hrec with
    ⟨rfl, absent, -, inserted⟩ | ⟨r, r', hget, key, happ, hc⟩
  · intro r hr
    simp only at hr ⊢
    rw [inserted] at hr
    rcases List.mem_append.1 hr with hr | hr
    · have other : r.runId ≠ runId := by
        simpa using List.find?_eq_none.1 absent r hr
      rw [if_neg other]
      exact h.records r hr
    · rw [List.mem_singleton.1 hr]
      refine ⟨nofun, nofun, nofun, fun _ => rfl, ?_, fun _ _ _ => nofun⟩
      cases hp : s.phases runId <;> rw [hp] at hnext <;> cases hnext
      cases replyLost <;> simp [WriterPhase.failed, Publication.prepared]
  · obtain ⟨hr, hid⟩ := PublicationTable.mem_of_get hget
    have hid' : r'.runId = runId := (Publication.apply_runId happ).trans hid
    refine records_of_commit hc (fun r₁ hr₁ hne => ?_) ?_ (if_pos hid')
    · have other : r₁.runId ≠ runId := fun same => hne (same.trans hid'.symm)
      simp only [if_neg other]
      exact h.records r₁ hr₁
    · have sound := h.records r hr
      rw [hid] at sound
      exact sound.apply hnext key happ (fun he => hid ▸ fenced he r hr hid) replyLost

end Sound

/-- A step that meets the condition keeps the ledger sound. -/
theorem Sound.step {writers : String → PublicationWriter} {i : Time × PublishingEvent} (h : s.Sound)
    (fenced : SubmitsFenced s i) (hs : step writers s i = some s') : s'.Sound := by
  obtain ⟨now, event⟩ := i
  unfold Publishing.step at hs
  by_cases early : now < s.clock
  · rw [if_pos early] at hs
    cases hs
  rw [if_neg early] at hs
  -- moving the clock changes nothing that is sound
  have h : Sound { s with clock := now } := ⟨h.records, h.tokens⟩
  cases event with
  | runChanges runId run =>
    cases hs
    exact ⟨h.records, h.tokens⟩
  | writerRecords runId event replyLost =>
    obtain ⟨next, hnext, rfl⟩ := Option.map_eq_some_iff.1 hs
    simp only
    split
    · rename_i table hrec
      exact h.writerRecords hnext hrec (fun he => fenced runId replyLost (he ▸ rfl)) replyLost
    · refine ⟨fun r hr => ?_, h.tokens⟩
      simp only
      by_cases hid : r.runId = runId
      · rw [if_pos hid]
        exact (h.records r hr).of_phase (fun hm => absurd hm (WriterPhase.failed_notMem event).1)
          (fun hm => absurd hm (WriterPhase.failed_notMem event).2)
      · rw [if_neg hid]
        exact h.records r hr
  | passClaims runId token =>
    simp only at hs
    split at hs
    · rename_i r run hget _
      split_ifs at hs with eligible
      split at hs
      · rename_i table hc
        cases hs
        exact h.passClaims hget eligible.1 eligible.2 hc
      · cases hs
    · cases hs
  | passReads pass access =>
    simp only at hs
    split at hs
    · rename_i p hp
      split_ifs at hs
      cases hs
      exact h.passReads hp access
    · cases hs
  | passReconciles pass reply =>
    simp only at hs
    split at hs
    · rename_i p hp
      split at hs
      · rename_i op hop
        split_ifs at hs
        cases hs
        exact h.passReconciles hp op reply
      · cases hs
    · cases hs
  | passCleans pass reply =>
    simp only at hs
    split at hs
    · rename_i p hp
      split at hs
      · rename_i op hop
        split_ifs at hs with unsubmitted
        cases hs
        exact h.passCleans hp hop unsubmitted reply
      · cases hs
    · cases hs
  | passCrashes pass =>
    cases hs
    exact h.erase pass

theorem sound_of_reachable {writers : String → PublicationWriter}
    (h : ((system writers).restrict SubmitsFenced).Reachable s) : s.Sound := by
  refine h.invariant (I := Sound) ?_ ?_
  · rintro s ⟨noRecords, noPasses, -⟩
    exact ⟨by simp [noRecords], by simp [noPasses]⟩
  · exact fun s i s' _ sound hs => sound.step hs.1 hs.2

/-- A target that a record holds cannot be acquired by another run. -/
theorem prepareStarted_refused (hr : r ∈ s.table.records) (held : r.activeTargetKey = some r.targetKey)
    (run : Option RunLease) {runId : String} (other : runId ≠ r.runId) {w : PublicationWriter}
    (same : w.targetKey = r.targetKey) (t' : PublicationTable) :
    recordPublicationEvent now s.table run runId w .prepareStarted ≠ .ok t' := by
  intro h
  rcases recordPublicationEvent_ok h with ⟨-, -, free, -⟩ | ⟨_, _, -, -, happ, -⟩
  · refine other (PublicationTable.not_conflicts_iff.1 free r hr r.targetKey ?_ held).symm
    rw [← same]
    rfl
  · cases happ

/-- While every submission is fenced, a submitted publication that is not confirmed is not recorded as
unchanged and keeps its target from every other run. -/
theorem submitted_keeps_target {writers : String → PublicationWriter}
    (h : ((system writers).restrict SubmitsFenced).Reachable s) (hr : r ∈ s.table.records)
    (submitted : r.submittedAt.isSome) (unconfirmed : r.confirmedAt = none) :
    r.state ≠ .unchanged ∧ r.activeTargetKey = some r.targetKey ∧
    ∀ now run runId w, runId ≠ r.runId → w.targetKey = r.targetKey →
      ∀ t', recordPublicationEvent now s.table run runId w .prepareStarted ≠ .ok t' := by
  obtain ⟨state, held⟩ := ((sound_of_reachable h).records r hr).held ⟨submitted, unconfirmed⟩
  refine ⟨fun unchanged => ?_, held, fun now run runId w other same =>
    prepareStarted_refused hr held run other same⟩
  rw [unchanged] at state
  exact absurd state (by decide)

/-! ## A worker that is late -/

/-- Every run writes to one table with one connection. -/
def oneTarget : String → PublicationWriter := fun _ =>
  { leaseToken := "lease", userId := "user", workspaceId := "workspace", targetKey := "target",
    locatorJson := "{}", connectionGeneration := "1", writeMode := "databricks_append",
    stagingName := "staging" }

/-- Two loading runs whose leases end at the tenth microsecond. -/
def twoRuns : Publishing where
  clock := 0
  runs _ := some {
    userId := "user", status := .loading, leaseToken := some "lease", leaseExpiresAt := some 10 }
  table := .empty
  phases _ := .start
  passes := []
  tokens := []

/-- The first run stages its rows. -/
def stages : List (Time × PublishingEvent) :=
  [(1, .writerRecords "first" .prepareStarted false),
    (2, .writerRecords "first" .stagingReady false)]

/-- After the lease has ended a pass reads the staged operation, the worker submits, and the pass
finishes. -/
def submitsUnderRecovery : List (Time × PublishingEvent) :=
  stages ++ [(20, .passClaims "first" "recovery"), (21, .passReads 0 .granted),
    (22, .writerRecords "first" .publishSubmitted false), (23, .passCleans 0 .dropped)]

theorem submitted_recorded_unchanged : ∃ s, (system oneTarget).Reachable s ∧
    (∃ r ∈ s.table.records, r.submittedAt.isSome ∧ r.confirmedAt = none ∧ r.state = .unchanged ∧
      r.activeTargetKey = none) ∧
    ∃ t', recordPublicationEvent 24 s.table (s.runs "second") "second" (oneTarget "second")
      .prepareStarted = .ok t' := by
  obtain ⟨s, hs⟩ := Option.isSome_iff_exists.1
    (by decide : (run (step oneTarget) twoRuns submitsUnderRecovery).isSome)
  have facts : ∀ s ∈ run (step oneTarget) twoRuns submitsUnderRecovery,
      (∃ r ∈ s.table.records, r.submittedAt.isSome ∧ r.confirmedAt = none ∧ r.state = .unchanged ∧
        r.activeTargetKey = none) ∧
      (recordPublicationEvent 24 s.table (s.runs "second") "second" (oneTarget "second")
        .prepareStarted).isOk := by decide
  have initial : (system oneTarget).Reachable twoRuns := .init ⟨rfl, rfl, fun _ => rfl⟩
  obtain ⟨lost, acquired⟩ := facts s hs
  refine ⟨s, initial.steps (steps_of_run hs), lost, ?_⟩
  rcases h : recordPublicationEvent 24 s.table (s.runs "second") "second" (oneTarget "second")
    .prepareStarted with e | t'
  · rw [h] at acquired
    cases acquired
  · exact ⟨t', rfl⟩

/-- The first run submits. -/
def submits : Time × PublishingEvent := (3, .writerRecords "first" .publishSubmitted false)

/-- A pass that claims after the submission looks up its outcome and does not find it. -/
def recoversSubmitted : List (Time × PublishingEvent) :=
  [(20, .passClaims "first" "recovery"), (21, .passReads 0 .granted),
    (22, .passReconciles 0 .unconfirmed)]

theorem submitted_keeps_target_after_recovery : ∃ s₁ s₂ s,
    run (step oneTarget) twoRuns stages = some s₁ ∧
    step oneTarget s₁ submits = some s₂ ∧
    run (step oneTarget) s₂ recoversSubmitted = some s ∧
    ∃ r ∈ s.table.records, r.state ≠ .unchanged ∧ r.activeTargetKey = some r.targetKey := by
  have replays : ((run (step oneTarget) twoRuns stages).bind fun s₁ =>
      (step oneTarget s₁ submits).bind fun s₂ =>
        run (step oneTarget) s₂ recoversSubmitted).isSome := by decide
  obtain ⟨s, h⟩ := Option.isSome_iff_exists.1 replays
  obtain ⟨s₁, hs₁, h⟩ := Option.bind_eq_some_iff.1 h
  obtain ⟨s₂, hs₂, hs⟩ := Option.bind_eq_some_iff.1 h
  have fenced : ∀ s₁ ∈ run (step oneTarget) twoRuns stages, s₁.passes = [] ∧
      ∀ r ∈ s₁.table.records, r.activeTargetKey = some r.targetKey := by decide
  have records : ∀ s₁ ∈ run (step oneTarget) twoRuns stages,
      ∀ s₂ ∈ step oneTarget s₁ submits,
      ∀ s ∈ run (step oneTarget) s₂ recoversSubmitted,
      ∃ r ∈ s.table.records, r.submittedAt.isSome ∧ r.confirmedAt = none := by decide
  have initial : ((system oneTarget).restrict SubmitsFenced).Reachable twoRuns :=
    .init ⟨rfl, rfl, fun _ => rfl⟩
  have staged := initial.steps (restrict_steps_of_run (by simp [stages, SubmitsFenced]) hs₁)
  have ok : SubmitsFenced s₁ submits := fun _ _ _ r hr _ =>
    ⟨(fenced s₁ hs₁).2 r hr, by simp [(fenced s₁ hs₁).1]⟩
  have submitted : ((system oneTarget).restrict SubmitsFenced).Reachable s₂ := staged.step ⟨ok, hs₂⟩
  have recovered := submitted.steps
    (restrict_steps_of_run (by simp [recoversSubmitted, SubmitsFenced]) hs)
  obtain ⟨r, hr, hsub, hconf⟩ := records s₁ hs₁ s₂ hs₂ s hs
  obtain ⟨state, held, -⟩ := submitted_keeps_target recovered hr hsub hconf
  exact ⟨s₁, s₂, s, hs₁, hs₂, hs, r, hr, state, held⟩

end Publishing

end DataMover
