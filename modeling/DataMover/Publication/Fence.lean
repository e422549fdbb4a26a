import DataMover.Publication.Recovery

/-!
# The fence is given back

A record that holds its target and whose run has ended is found by the candidate query once its
recovery delay has passed (`fence_recoverable`), unless a recovery pass had no usable credentials for
it: an unconfirmed record is then parked as `cleanup_required`, which the query does not list
(`fence_leaked`).
-/

namespace DataMover

open Transition

/-! ## What a step writes -/

/-- Everything that one step can write into an existing record. -/
inductive Publishing.Writes (s : Publishing) (now : Time) (r : Publication) :
    PublishingEvent → Publication → Prop
  | event {runId : String} {event : PublicationEvent} {replyLost : Bool} {r' : Publication}
      (w : PublicationWriter) (h : r.apply now w event = .ok r') :
      Writes s now r (.writerRecords runId event replyLost) r'
  | claim (runId token : String) : Writes s now r (.passClaims runId token) (r.claimRecovery now token)
  | deferOwner (pass : Nat) (code summary : String) (delay : Int) :
      Writes s now r (.passReads pass .ownerUnavailable) (r.deferRecovery now code summary delay none)
  | deferCredentials {pass : Nat} {access : RecoveryAccess} {p : RecoveryPass}
      (hp : s.passes[pass]? = some p) (owned : s.owned p = some r)
      (denied : access = .credentialsUnavailable ∨ access = .credentialsStale)
      (code summary : String) (delay : Int) :
      Writes s now r (.passReads pass access) (r.deferRecovery now code summary delay
        (some (if r.confirmedAt.isNone then .cleanupRequired else .cleanupPending)))
  | confirm (pass : Nat) (submissionId : String) :
      Writes s now r (.passReconciles pass .committed) (r.confirmCommit now submissionId)
  | deferUncertain (pass : Nat) (reply : ReconcileReply) (code summary : String) (delay : Int) :
      Writes s now r (.passReconciles pass reply)
        (r.deferRecovery now code summary delay (some .uncertain))
  | finish (pass : Nat) : Writes s now r (.passCleans pass .dropped) (r.finishRecovery now)
  | deferCleanup (pass : Nat) (reply : CleanupReply) (code summary : String) (delay : Int) :
      Writes s now r (.passCleans pass reply)
        (r.deferRecovery now code summary delay (some .cleanupPending))

namespace Publishing

variable {writers : String → PublicationWriter} {s s' : Publishing} {r r' : Publication}
  {now : Time} {pass : Nat} {p : RecoveryPass}

/-- Moving the clock changes nothing that is written. -/
theorem Writes.of_clock {t : Time} {event : PublishingEvent}
    (h : Writes { s with clock := t } now r event r') : s.Writes now r event r' := by
  cases h with
  | event w h => exact .event w h
  | claim => exact .claim ..
  | deferOwner => exact .deferOwner ..
  | deferCredentials hp owned denied code summary delay =>
    exact .deferCredentials (s := s) hp owned denied code summary delay
  | confirm => exact .confirm ..
  | deferUncertain => exact .deferUncertain ..
  | finish => exact .finish _
  | deferCleanup => exact .deferCleanup ..

theorem mem_of_endPass {write : Publication → Publication}
    (h : r' ∈ (s.endPass pass p write).table.records) :
    r' ∈ s.table.records ∨ ∃ r ∈ s.table.records, s.owned p = some r ∧ r' = write r := by
  simp only [endPass] at h
  split at h
  · exact .inl h
  · rename_i r owned
    split at h
    · rename_i table hc
      rcases PublicationTable.mem_of_commit hc h with rfl | ⟨h, -⟩
      · exact .inr ⟨r, (mem_of_owned owned).1, owned, rfl⟩
      · exact .inl h
    · exact .inl h

theorem mem_of_passReads {access : RecoveryAccess} (hp : s.passes[pass]? = some p)
    (h : r' ∈ (s.passReads now pass p access).table.records) :
    r' ∈ s.table.records ∨ ∃ r ∈ s.table.records, s.Writes now r (.passReads pass access) r' := by
  cases access with
  | ownerUnavailable =>
    refine (mem_of_endPass h).imp_right ?_
    rintro ⟨r, hr, -, rfl⟩
    exact ⟨r, hr, .deferOwner ..⟩
  | credentialsUnavailable =>
    refine (mem_of_endPass h).imp_right ?_
    rintro ⟨r, hr, owned, rfl⟩
    exact ⟨r, hr, .deferCredentials hp owned (.inl rfl) ..⟩
  | credentialsStale =>
    refine (mem_of_endPass h).imp_right ?_
    rintro ⟨r, hr, owned, rfl⟩
    exact ⟨r, hr, .deferCredentials hp owned (.inr rfl) ..⟩
  | granted =>
    simp only [passReads] at h
    split at h
    · exact .inl h
    · exact .inl h

theorem mem_of_passReconciles {op : RecoveryOperation} {reply : ReconcileReply}
    (h : r' ∈ (s.passReconciles now pass p op reply).table.records) :
    r' ∈ s.table.records ∨ ∃ r ∈ s.table.records, s.Writes now r (.passReconciles pass reply) r' := by
  cases reply with
  | committed =>
    simp only [passReconciles] at h
    split at h
    · exact .inl h
    · rename_i r owned
      split at h
      · rename_i table hc
        rcases PublicationTable.mem_of_commit hc h with rfl | ⟨h, -⟩
        · exact .inr ⟨r, (mem_of_owned owned).1, .confirm ..⟩
        · exact .inl h
      · exact .inl h
  | unconfirmed =>
    refine (mem_of_endPass h).imp_right ?_
    rintro ⟨r, hr, -, rfl⟩
    exact ⟨r, hr, .deferUncertain ..⟩
  | raised code summary =>
    refine (mem_of_endPass h).imp_right ?_
    rintro ⟨r, hr, -, rfl⟩
    exact ⟨r, hr, .deferUncertain ..⟩

theorem mem_of_passCleans {reply : CleanupReply}
    (h : r' ∈ (s.passCleans now pass p reply).table.records) :
    r' ∈ s.table.records ∨ ∃ r ∈ s.table.records, s.Writes now r (.passCleans pass reply) r' := by
  cases reply with
  | dropped =>
    refine (mem_of_endPass h).imp_right ?_
    rintro ⟨r, hr, -, rfl⟩
    exact ⟨r, hr, .finish pass⟩
  | raised code summary =>
    refine (mem_of_endPass h).imp_right ?_
    rintro ⟨r, hr, -, rfl⟩
    exact ⟨r, hr, .deferCleanup ..⟩

/-- A record after a step was there before, is new, or is what the step wrote. -/
theorem records_of_step {i : Time × PublishingEvent} (hs : step writers s i = some s')
    (hr : r' ∈ s'.table.records) :
    r' ∈ s.table.records ∨ (∃ runId w, r' = .prepared runId w) ∨
      ∃ r ∈ s.table.records, s.Writes i.1 r i.2 r' := by
  obtain ⟨now, event⟩ := i
  unfold step at hs
  by_cases early : now < s.clock
  · rw [if_pos early] at hs
    cases hs
  rw [if_neg early] at hs
  have written {e : PublishingEvent} (h : r' ∈ s.table.records ∨
      ∃ r ∈ s.table.records, Writes { s with clock := now } now r e r') :
      r' ∈ s.table.records ∨ (∃ runId w, r' = .prepared runId w) ∨
        ∃ r ∈ s.table.records, s.Writes now r e r' :=
    h.imp_right fun ⟨r, hr, h⟩ => .inr ⟨r, hr, h.of_clock⟩
  cases event with
  | runChanges runId run =>
    cases hs
    exact .inl hr
  | writerRecords runId event replyLost =>
    obtain ⟨next, -, rfl⟩ := Option.map_eq_some_iff.1 hs
    simp only at hr
    split at hr
    · rename_i table recorded
      rcases recordPublicationEvent_ok recorded with ⟨-, -, -, inserted⟩ | ⟨r, r₁, hget, -, happ, hc⟩
      · simp only [inserted] at hr
        rcases List.mem_append.1 hr with hr | hr
        · exact .inl hr
        · exact .inr (.inl ⟨_, _, List.mem_singleton.1 hr⟩)
      · rcases PublicationTable.mem_of_commit hc hr with rfl | ⟨hr, -⟩
        · exact .inr (.inr ⟨r, (PublicationTable.mem_of_get hget).1, .event _ happ⟩)
        · exact .inl hr
    · exact .inl hr
  | passClaims runId token =>
    simp only at hs
    split at hs
    · rename_i r run hget _
      split_ifs at hs
      split at hs
      · rename_i table hc
        cases hs
        rcases PublicationTable.mem_of_commit hc hr with rfl | ⟨hr, -⟩
        · exact .inr (.inr ⟨r, (PublicationTable.mem_of_get hget).1, .claim ..⟩)
        · exact .inl hr
      · cases hs
    · cases hs
  | passReads pass access =>
    simp only at hs
    split at hs
    · rename_i p hp
      split_ifs at hs
      cases hs
      exact written (mem_of_passReads (s := { s with clock := now }) hp hr)
    · cases hs
  | passReconciles pass reply =>
    simp only at hs
    split at hs
    · split at hs
      · split_ifs at hs
        cases hs
        exact written (mem_of_passReconciles hr)
      · cases hs
    · cases hs
  | passCleans pass reply =>
    simp only at hs
    split at hs
    · split at hs
      · split_ifs at hs
        cases hs
        exact written (mem_of_passCleans hr)
      · cases hs
    · cases hs
  | passCrashes pass =>
    cases hs
    exact .inl hr

/-! ## Records that hold their target -/

/-- A pass without usable credentials does not meet an unconfirmed record that holds its target. -/
def KeepsCredentials (s : Publishing) (i : Time × PublishingEvent) : Prop :=
  ∀ pass access, i.2 = .passReads pass access →
    access = .credentialsUnavailable ∨ access = .credentialsStale →
    ∀ p, s.passes[pass]? = some p → ∀ r, s.owned p = some r → r.activeTargetKey.isSome →
      r.confirmedAt.isSome

end Publishing

/-- A record that holds its target is in one of the states that recovery looks for. -/
def Publication.Fenced (r : Publication) : Prop :=
  r.activeTargetKey.isSome → r.state ∈ PublicationState.recoverable

namespace Publication.Fenced

variable {r r' : Publication} {now : Time}

/-- An event either keeps the state and the target, gives the target up, or enters one of these
states. -/
theorem apply (h : r.Fenced) {w : PublicationWriter} {event : PublicationEvent}
    (hr : r.apply now w event = .ok r') : r'.Fenced := by
  cases event with
  | prepareStarted => cases hr
  | batchWritten rows bytes =>
    cases hr
    exact h
  | cleanupConfirmed =>
    cases hr
    intro held
    cases held
  | abortConfirmed =>
    simp only [Publication.apply] at hr
    split_ifs at hr
    cases hr
    intro held
    cases held
  | abortUncertain error =>
    cases hr
    intro _
    show (if r.submittedAt.isSome then PublicationState.uncertain else .cleanupPending) ∈ _
    split_ifs <;> decide
  | stagingReady | publishSubmitted | committed | publishUncertain | cleanupPending =>
    cases hr
    exact fun _ => by simp [PublicationState.recoverable]

theorem writes {s : Publishing} {event : PublishingEvent} (h : r.Fenced)
    (hr : s.Writes now r event r') (kept : s.KeepsCredentials (now, event)) : r'.Fenced := by
  cases hr with
  | event w hr => exact h.apply hr
  | claim | deferOwner => exact h
  | deferCredentials hp owned denied =>
    intro held
    have confirmed := kept _ _ rfl denied _ hp r owned held
    show (if r.confirmedAt.isNone then PublicationState.cleanupRequired else .cleanupPending) ∈ _
    rw [if_neg (by simpa [Option.isSome_iff_ne_none] using confirmed)]
    decide
  | confirm | finish => exact nofun
  | deferUncertain | deferCleanup =>
    exact fun _ => by simp [Publication.deferRecovery, PublicationState.recoverable]

end Publication.Fenced

namespace Publishing

variable {writers : String → PublicationWriter} {s : Publishing} {r : Publication}

theorem fenced_of_reachable (h : ((system writers).restrict KeepsCredentials).Reachable s) :
    ∀ r ∈ s.table.records, r.Fenced := by
  refine h.invariant (I := fun s => ∀ r ∈ s.table.records, r.Fenced) ?_ ?_
  · rintro s ⟨noRecords, -⟩ r hr
    rw [noRecords] at hr
    cases hr
  · intro s i s' _ fenced hs r' hr'
    rcases records_of_step hs.2 hr' with hr | ⟨runId, w, rfl⟩ | ⟨r, hr, writes⟩
    · exact fenced r' hr
    · exact fun _ => by simp [Publication.prepared, PublicationState.recoverable]
    · exact (fenced r hr).writes writes hs.1

/-- A pass with a new token can claim a candidate. -/
theorem passClaims_enabled {t : Time} {run : RunLease} {token : String} (hr : r ∈ s.table.records)
    (hrun : s.runs r.runId = some run) (candidate : r.RecoveryCandidate t run) (later : s.clock ≤ t)
    (fresh : token ∉ s.tokens) : (step writers s (t, .passClaims r.runId token)).isSome := by
  have found : s.table.get r.runId = some r := by
    rcases hg : s.table.get r.runId with _ | r₀
    · have absent := List.find?_eq_none.1 hg r hr
      simp at absent
    · obtain ⟨hr₀, same⟩ := PublicationTable.mem_of_get hg
      rw [PublicationTable.eq_of_runId_eq hr₀ hr same]
  have free : s.table.conflicts (r.claimRecovery t token) = false :=
    PublicationTable.not_conflicts_iff.2 fun r₁ hr₁ key held held₁ =>
      s.table.activeTarget r₁ hr₁ r hr key held₁ held
  have commits : s.table.commit (r.claimRecovery t token) = .ok (s.table.put _ free) := by
    rw [PublicationTable.commit, dif_pos free]
  unfold step
  rw [if_neg (by simpa using later)]
  simp only [found, hrun, commits]
  rw [if_pos ⟨candidate, fresh⟩]
  rfl

/-- As long as no pass without credentials meets an unconfirmed record that holds its target, every
record that holds its target and whose run has ended can be claimed once its delay has passed. -/
theorem fence_recoverable (h : ((system writers).restrict KeepsCredentials).Reachable s)
    (hr : r ∈ s.table.records) (held : r.activeTargetKey.isSome) {run : RunLease}
    (hrun : s.runs r.runId = some run) (ended : run.status ∈ PipelineRunStatus.terminalStatuses) :
    (∀ t, (∀ expires ∈ r.recoveryExpiresAt, expires ≤ t) → r.RecoveryCandidate t run) ∧
    ∃ t, s.clock ≤ t ∧ r.RecoveryCandidate t run ∧
      ∀ token ∉ s.tokens, (step writers s (t, .passClaims r.runId token)).isSome := by
  have due (t : Time) (expired : ∀ expires ∈ r.recoveryExpiresAt, expires ≤ t) :
      r.RecoveryCandidate t run :=
    ⟨fenced_of_reachable h r hr held, expired, .inl ended⟩
  refine ⟨due, max s.clock (r.recoveryExpiresAt.getD s.clock), Int.le_max_left _ _, ?_⟩
  have candidate : r.RecoveryCandidate (max s.clock (r.recoveryExpiresAt.getD s.clock)) run := by
    refine due _ fun expires he => ?_
    rw [Option.mem_def.1 he]
    exact Int.le_max_right _ _
  exact ⟨candidate, fun token fresh =>
    passClaims_enabled hr hrun candidate (Int.le_max_left _ _) fresh⟩

/-! ## A connection that was replaced -/

/-- The first run stages its rows and fails. -/
def fails : List (Time × PublishingEvent) :=
  stages ++ [(3, .runChanges "first" (some {
    userId := "user", status := .failed, leaseToken := none, leaseExpiresAt := none })),
    (20, .passClaims "first" "recovery")]

/-- The recovery pass finds no usable credentials. -/
def losesCredentials : List (Time × PublishingEvent) :=
  fails ++ [(21, .passReads 0 .credentialsUnavailable)]

/-- A record that holds its target is never a candidate again. -/
theorem fence_leaked : ∃ s, (system oneTarget).Reachable s ∧
    ∃ r ∈ s.table.records, r.activeTargetKey = some r.targetKey ∧
      ∃ run, s.runs r.runId = some run ∧ run.status ∈ PipelineRunStatus.terminalStatuses ∧
      ∀ t, ¬ r.RecoveryCandidate t run := by
  obtain ⟨s, hs⟩ := Option.isSome_iff_exists.1
    (by decide : (run (step oneTarget) twoRuns losesCredentials).isSome)
  have facts : ∀ s ∈ run (step oneTarget) twoRuns losesCredentials,
      ∃ r ∈ s.table.records, r.activeTargetKey = some r.targetKey ∧ r.state = .cleanupRequired ∧
        ∃ run ∈ s.runs r.runId, run.status ∈ PipelineRunStatus.terminalStatuses := by decide
  have initial : (system oneTarget).Reachable twoRuns := .init ⟨rfl, rfl, fun _ => rfl⟩
  obtain ⟨r, hr, held, parked, lease, hrun, ended⟩ := facts s hs
  refine ⟨s, initial.steps (steps_of_run hs), r, hr, held, lease, hrun, ended, ?_⟩
  rintro t ⟨recoverable, -⟩
  rw [parked] at recoverable
  exact absurd recoverable (by decide)

/-- While a pass has claimed the record of the failed run. -/
theorem fence_recoverable_after_failure : ∃ s, run (step oneTarget) twoRuns fails = some s ∧
    ∃ r ∈ s.table.records, r.activeTargetKey = some r.targetKey ∧
      ∃ run, s.runs r.runId = some run ∧ ∃ t, s.clock ≤ t ∧ r.RecoveryCandidate t run := by
  obtain ⟨s, hs⟩ := Option.isSome_iff_exists.1
    (by decide : (run (step oneTarget) twoRuns fails).isSome)
  have facts : ∀ s ∈ run (step oneTarget) twoRuns fails,
      ∃ r ∈ s.table.records, r.activeTargetKey = some r.targetKey ∧
        ∃ run ∈ s.runs r.runId, run.status ∈ PipelineRunStatus.terminalStatuses := by decide
  have initial : ((system oneTarget).restrict KeepsCredentials).Reachable twoRuns :=
    .init ⟨rfl, rfl, fun _ => rfl⟩
  have reached := initial.steps
    (restrict_steps_of_run (by simp [fails, stages, KeepsCredentials]) hs)
  obtain ⟨r, hr, held, lease, hrun, ended⟩ := facts s hs
  obtain ⟨-, t, later, candidate, -⟩ :=
    fence_recoverable reached hr (by rw [held]; rfl) hrun ended
  exact ⟨s, hs, r, hr, held, lease, hrun, t, later, candidate⟩

end Publishing

end DataMover
