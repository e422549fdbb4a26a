import DataMover.Compute.Coordination

/-!
# One start for each compute

The active key is the fence of a start (`starts_deduplicated`): it belongs to the attempts that are
starting or whose observation was cancelled, to at most one attempt for each compute, and the provider
is asked at most once for each attempt.

An ended attempt is final as long as no failure is committed over it (`ended_attempt_stays_ended`).
`record_start_failure` checks a row that it has not locked, so that it can commit a failure over an
attempt that a poll has meanwhile found ready (`ended_attempt_overwritten`).
-/

namespace DataMover

open PipelineRun (AttemptStatus)
open Transition
open Program (Workload Pool Turn)

/-! ## What happens to a row -/

namespace DatabricksComputeAttempt

/-- The active key says whether the attempt is active. -/
def Fenced (a : DatabricksComputeAttempt) : Prop :=
  a.activeKey = if a.status ∈ [AttemptStatus.starting, .cancelled] then some a.computeKey else none

/-- What every write keeps. -/
structure KeepsFence (a a' : DatabricksComputeAttempt) : Prop where
  id_eq : a'.id = a.id
  deadlineAt_eq : a'.deadlineAt = a.deadlineAt
  fenced : a'.Fenced

/-- The end of an ended attempt is kept. -/
def KeepsEnd (a a' : DatabricksComputeAttempt) : Prop :=
  a.status ∈ endedStatuses →
    a'.status = a.status ∧ a'.completedAt = a.completedAt ∧ a'.errorCode = a.errorCode

section Rows

variable {now : Time} {settings : StartupSettings} {a a' : DatabricksComputeAttempt}

theorem KeepsFence.refl (h : a.Fenced) : KeepsFence a a := ⟨rfl, rfl, h⟩

theorem KeepsEnd.refl : KeepsEnd a a := fun _ => ⟨rfl, rfl, rfl⟩

theorem keepsEnd_of_starting (h : a.status = .starting) : KeepsEnd a a' := by
  intro ended
  rw [h] at ended
  exact absurd ended (by decide)

theorem keepsEnd_of_cancelled (h : a.status = .cancelled) : KeepsEnd a a' := by
  intro ended
  rw [h] at ended
  exact absurd ended (by decide)

theorem not_active_of_ended {status : AttemptStatus} (h : status ∈ endedStatuses) :
    status ∉ [AttemptStatus.starting, .cancelled] := by
  revert h
  cases status <;> decide

/-- An attempt that was ended by `_finish` has no key. -/
theorem finish_keeps {status : AttemptStatus} (ended : status ∈ endedStatuses) (state : String)
    (code : Option String) (summary : String) : KeepsFence a (a.finish now status state code summary) :=
  ⟨rfl, rfl, (if_neg (not_active_of_ended ended)).symm⟩

/-- A write after an edit of other columns. -/
theorem KeepsFence.after_edit {b : DatabricksComputeAttempt} (h : KeepsFence b a') (id : b.id = a.id)
    (deadline : b.deadlineAt = a.deadlineAt) : KeepsFence a a' :=
  ⟨h.id_eq.trans id, h.deadlineAt_eq.trans deadline, h.fenced⟩

theorem timeOut_keeps : KeepsFence a (a.timeOut now) := finish_keeps (by decide) _ _ _

theorem failStart_keeps (error : ConnectorError) : KeepsFence a (a.failStart now error) := by
  unfold failStart
  split_ifs
  · exact finish_keeps (by decide) _ _ _
  · exact finish_keeps (by decide) _ _ _

theorem recordStartSubmission_keeps (h : a.Fenced) (result : StartResult) :
    KeepsFence a (a.recordStartSubmission now settings result) ∧
      KeepsEnd a (a.recordStartSubmission now settings result) := by
  unfold recordStartSubmission
  split_ifs with inactive running
  · exact ⟨.refl h, .refl⟩
  · exact ⟨finish_keeps (by decide) _ _ _, keepsEnd_of_starting (not_not.1 inactive)⟩
  · exact ⟨⟨rfl, rfl, h⟩, keepsEnd_of_starting (not_not.1 inactive)⟩

theorem recordStartUncertain_keeps (h : a.Fenced) (error : ConnectorError) :
    KeepsFence a (a.recordStartUncertain now error) ∧ KeepsEnd a (a.recordStartUncertain now error) := by
  unfold recordStartUncertain
  split_ifs with inactive
  · exact ⟨.refl h, .refl⟩
  · exact ⟨⟨rfl, rfl, h⟩, keepsEnd_of_starting (not_not.1 inactive)⟩

theorem cancelObservation_keeps (h : a.Fenced) {userId : String}
    (cancelled : a.cancelObservation now userId = some a') : KeepsFence a a' ∧ KeepsEnd a a' := by
  unfold cancelObservation at cancelled
  split_ifs at cancelled with other
  have starting : a.status = .starting := not_not.1 (not_or.1 other).2
  cases cancelled
  refine ⟨⟨rfl, rfl, ?_⟩, keepsEnd_of_starting starting⟩
  simpa [Fenced, starting] using h

theorem resumeObservation_keeps (h : a.Fenced) {userId : String}
    (resumed : a.resumeObservation now userId = some a') : KeepsFence a a' ∧ KeepsEnd a a' := by
  unfold resumeObservation at resumed
  split_ifs at resumed with other late
  all_goals
    have cancelled : a.status = .cancelled := not_not.1 (not_or.1 (not_or.1 other).2).1
    cases resumed
    refine ⟨?_, keepsEnd_of_cancelled cancelled⟩
  · exact timeOut_keeps
  · refine ⟨rfl, rfl, ?_⟩
    simpa [Fenced, cancelled] using h

theorem leased_keeps (h : a.Fenced) (token : String) (leaseSeconds : Int) :
    KeepsFence a (a.leased now token leaseSeconds) ∧ KeepsEnd a (a.leased now token leaseSeconds) :=
  ⟨⟨rfl, rfl, h⟩, fun _ => ⟨rfl, rfl, rfl⟩⟩

theorem keepPolling_keeps (h : a.Fenced) : KeepsFence a (a.keepPolling now settings) := by
  unfold keepPolling
  split_ifs with late
  · exact timeOut_keeps
  · exact ⟨rfl, rfl, h⟩

theorem observeState_keeps (h : a.Fenced) (state : String) :
    KeepsFence a (a.observeState now settings state) := by
  unfold observeState
  dsimp only
  split_ifs with silent ready failed
  · exact keepPolling_keeps h
  · exact KeepsFence.after_edit (finish_keeps (by decide) _ _ _) rfl rfl
  · exact KeepsFence.after_edit (finish_keeps (by decide) _ _ _) rfl rfl
  · refine KeepsFence.after_edit (keepPolling_keeps ?_) rfl rfl
    exact h

theorem observe_keeps (h : a.Fenced) {token state : String} {error : Option ConnectorError}
    (observed : a.observe now settings token state error = some a') :
    KeepsFence a a' ∧ KeepsEnd a a' := by
  unfold observe at observed
  split_ifs at observed with lost
  refine ⟨?_, keepsEnd_of_starting (not_not.1 (not_or.1 lost).1)⟩
  cases error with
  | none =>
    cases observed
    refine KeepsFence.after_edit (observeState_keeps ?_ state) rfl rfl
    exact h
  | some e =>
    dsimp only at observed
    split_ifs at observed with fatal
    · cases observed
      exact KeepsFence.after_edit (failStart_keeps e) rfl rfl
    · cases observed
      refine KeepsFence.after_edit (observeState_keeps ?_ state) rfl rfl
      exact h

theorem invalidate_keeps (h : a.Fenced) (userId : String) :
    KeepsFence a (a.invalidate now userId) ∧ KeepsEnd a (a.invalidate now userId) := by
  unfold invalidate
  split_ifs with other
  · exact ⟨.refl h, .refl⟩
  · refine ⟨⟨rfl, rfl, rfl⟩, fun ended => ?_⟩
    -- an ended attempt has no key, so the bulk update does not select it
    rw [Fenced, if_neg (not_active_of_ended ended)] at h
    rw [h] at other
    exact absurd (.inr rfl) other

/-- The commit of a failure over the current row `a` for the row `read`. -/
theorem flushFailure_keeps {read : DatabricksComputeAttempt} (h : read.Fenced)
    (starting : read.status = .starting) (error : ConnectorError) :
    KeepsFence a (flushChanged read (read.failStart now error) a) := by
  have key : read.activeKey = some read.computeKey := by simpa [Fenced, starting] using h
  have deadline := flush_self read.deadlineAt a.deadlineAt
  refine ⟨rfl, deadline, ?_⟩
  have unkeyed : (flushChanged read (read.failStart now error) a).activeKey = none :=
    flush_of_ne (by rw [key]; exact nofun) a.activeKey
  have ended : (flushChanged read (read.failStart now error) a).status ∈ endedStatuses := by
    show flush read.status (if error.code = .credentialsStale then .stale else .failed) a.status ∈ _
    rw [starting]
    split_ifs
    · rw [flush_of_ne (by decide)]
      decide
    · rw [flush_of_ne (by decide)]
      decide
  rw [Fenced, unkeyed, if_neg (not_active_of_ended ended)]

end Rows

end DatabricksComputeAttempt

/-! ## What happens to the table -/

open DatabricksComputeAttempt (KeepsFence KeepsEnd)

/-- The request commits a failure over an attempt that has ended. -/
def ComputeRequest.Overwrites : ComputeRequest → DatabricksComputeAttempt → Prop
  | .commitFailure read _, a => a.id = read.id ∧ a.status ∈ endedStatuses
  | _, _ => False

/-- A failure is committed only for a starting attempt that had its key. -/
def ComputeRequest.Sound : ComputeRequest → Prop
  | .commitFailure read _ => read.Fenced ∧ read.status = .starting
  | _ => True

/-- Every row is rewritten by `f`, and rows are added. -/
structure Rewritten (c : ComputeRequest) (t t' : AttemptTable) : Prop where
  rows : ∃ f added, t'.rows = t.rows.map f ++ added ∧ (∀ a ∈ t.rows, KeepsFence a (f a)) ∧
    (∀ a ∈ t.rows, ¬ c.Overwrites a → KeepsEnd a (f a)) ∧ ∀ a ∈ added, a.Fenced

section Tables

variable {settings : StartupSettings} {o : ComputeOracle} {s : ComputeState} {c : ComputeRequest}

theorem Rewritten.refl {t : AttemptTable} (fenced : ∀ a ∈ t.rows, a.Fenced) : Rewritten c t t := by
  refine ⟨id, [], by simp, fun a ha => .refl (fenced a ha), fun _ _ _ => .refl, ?_⟩
  intro a ha
  cases ha

/-- An update whose rows are rewritten one by one. -/
theorem rewritten_update {t t' : AttemptTable} {f : DatabricksComputeAttempt → DatabricksComputeAttempt}
    (h : t.update f = some t') (keeps : ∀ a ∈ t.rows, KeepsFence a (f a))
    (keepsEnd : ∀ a ∈ t.rows, ¬ c.Overwrites a → KeepsEnd a (f a)) : Rewritten c t t' := by
  refine ⟨f, [], ?_, keeps, keepsEnd, fun a ha => nomatch ha⟩
  rw [AttemptTable.ofRows_eq h, List.append_nil]

theorem rewritten_updateAt {t t' : AttemptTable} {id : String}
    {f : DatabricksComputeAttempt → DatabricksComputeAttempt} (h : t.updateAt id f = some t')
    (fenced : ∀ a ∈ t.rows, a.Fenced) (keeps : ∀ a ∈ t.rows, a.id = id → KeepsFence a (f a))
    (keepsEnd : ∀ a ∈ t.rows, a.id = id → ¬ c.Overwrites a → KeepsEnd a (f a)) :
    Rewritten c t t' := by
  refine rewritten_update h (fun a ha => ?_) fun a ha notOver => ?_
  · split_ifs with same
    · exact keeps a ha same
    · exact .refl (fenced a ha)
  · split_ifs with same
    · exact keepsEnd a ha same notOver
    · exact .refl

/-- A statement that is committed or raises. -/
theorem rewritten_commit {α : Type} {attempts : Option AttemptTable} {a : α}
    (fenced : ∀ a ∈ s.attempts.rows, a.Fenced)
    (h : ∀ t, attempts = some t → Rewritten c s.attempts t) :
    Rewritten c s.attempts (s.commit attempts a).2.attempts := by
  cases attempts with
  | none => exact .refl fenced
  | some t => exact h t rfl

theorem rewritten_commitLocked {α : Type} {id : String}
    {f : DatabricksComputeAttempt → Option DatabricksComputeAttempt} {absent : α}
    {done : DatabricksComputeAttempt → α} (fenced : ∀ a ∈ s.attempts.rows, a.Fenced)
    (h : ∀ a a', a.Fenced → f a = some a' → KeepsFence a a' ∧ KeepsEnd a a') :
    Rewritten c s.attempts (s.commitLocked id f absent done).2.attempts := by
  unfold ComputeState.commitLocked
  cases hf : (s.attempts.get id).bind f with
  | none => exact .refl fenced
  | some a' =>
    obtain ⟨a, found, made⟩ := Option.bind_eq_some_iff.1 hf
    obtain ⟨ha, rfl⟩ := AttemptTable.get_mem found
    have kept := h a a' (fenced a ha) made
    refine rewritten_commit fenced fun t ht => rewritten_updateAt ht fenced ?_ ?_
    · intro b hb same
      rw [AttemptTable.eq_of_id hb ha same]
      exact kept.1
    · intro b hb same _
      rw [AttemptTable.eq_of_id hb ha same]
      exact kept.2

/-- What a request does to the attempts. -/
theorem rewritten_respond (fenced : ∀ a ∈ s.attempts.rows, a.Fenced) (sound : c.Sound) :
    Rewritten c s.attempts (s.respond settings o c).2.attempts := by
  cases c with
  | enterRun | linkRun | findActive | revision | resolveConnector | startCompute | getAttempt
  | recordRuntimeStatus => exact .refl fenced
  | insertAttempt userId credentials =>
    simp only [ComputeState.respond]
    split
    · exact .refl fenced
    · rename_i t ht
      refine ⟨id, [.reserved o.now settings o.newId userId credentials], ?_,
        fun a ha => .refl (fenced a ha), fun _ _ _ => .refl, ?_⟩
      · rw [AttemptTable.ofRows_eq ht, List.map_id]
      · intro a ha
        rw [List.mem_singleton.1 ha]
        exact (if_pos List.mem_cons_self).symm
  | recordStartSubmission id result =>
    refine rewritten_commit fenced fun t ht => rewritten_updateAt ht fenced ?_ ?_
    · exact fun a ha _ => (a.recordStartSubmission_keeps (fenced a ha) result).1
    · exact fun a ha _ _ => (a.recordStartSubmission_keeps (fenced a ha) result).2
  | recordStartUncertain id error =>
    refine rewritten_commit fenced fun t ht => rewritten_updateAt ht fenced ?_ ?_
    · exact fun a ha _ => (a.recordStartUncertain_keeps (fenced a ha) error).1
    · exact fun a ha _ _ => (a.recordStartUncertain_keeps (fenced a ha) error).2
  | commitFailure read error =>
    refine rewritten_commit fenced fun t ht => rewritten_updateAt ht fenced ?_ ?_
    · exact fun a _ _ => DatabricksComputeAttempt.flushFailure_keeps sound.1 sound.2 error
    · intro a _ same notOver ended
      exact absurd ⟨same, ended⟩ notOver
  | cancelComputeObservation userId id =>
    exact rewritten_commitLocked fenced fun a a' h => a.cancelObservation_keeps h
  | resumeComputeObservation userId id =>
    exact rewritten_commitLocked fenced fun a a' h => a.resumeObservation_keeps h
  | claimDueAttempt leaseSeconds =>
    refine rewritten_commitLocked fenced fun a a' h leased => ?_
    split_ifs at leased
    cases leased
    exact a.leased_keeps h o.newId leaseSeconds
  | observeAttempt id token state error =>
    exact rewritten_commitLocked fenced fun a a' h => a.observe_keeps h
  | replaceCredentials userId revision =>
    have updated (t : AttemptTable)
        (ht : s.attempts.update (fun a => a.invalidate o.now userId) = some t) :
        Rewritten (.replaceCredentials userId revision) s.attempts t := by
      refine rewritten_update ht ?_ ?_
      · exact fun a ha => (a.invalidate_keeps (fenced a ha) userId).1
      · exact fun a ha _ => (a.invalidate_keeps (fenced a ha) userId).2
    exact rewritten_commit (s := { s with
      revisions := fun user => if user = userId then revision else s.revisions user }) fenced updated

theorem rewritten_serve (settings : StartupSettings) (o : ComputeOracle)
    (fenced : ∀ a ∈ s.attempts.rows, a.Fenced) (sound : c.Sound) :
    Rewritten c s.attempts (s.serve settings o c).2.attempts := by
  unfold ComputeState.serve
  split
  · exact .refl fenced
  · exact rewritten_respond fenced sound

theorem Rewritten.fenced {t t' : AttemptTable} (h : Rewritten c t t') :
    ∀ a ∈ t'.rows, a.Fenced := by
  obtain ⟨f, added, rows, keeps, -, fenced⟩ := h.rows
  intro a ha
  rw [rows] at ha
  rcases List.mem_append.1 ha with ha | ha
  · obtain ⟨b, hb, rfl⟩ := List.mem_map.1 ha
    exact (keeps b hb).fenced
  · exact fenced a ha

/-- The attempts stay in the table with their deadlines. -/
theorem Rewritten.mem {t t' : AttemptTable} (h : Rewritten c t t') {a : DatabricksComputeAttempt}
    (ha : a ∈ t.rows) :
    ∃ a' ∈ t'.rows, a'.id = a.id ∧ a'.deadlineAt = a.deadlineAt ∧ (¬ c.Overwrites a → KeepsEnd a a') := by
  obtain ⟨f, added, rows, keeps, keepsEnd, -⟩ := h.rows
  refine ⟨f a, ?_, (keeps a ha).id_eq, (keeps a ha).deadlineAt_eq, keepsEnd a ha⟩
  rw [rows]
  exact List.mem_append_left _ (List.mem_map_of_mem ha)

/-- Only a start is counted. -/
theorem started_serve (settings : StartupSettings) (o : ComputeOracle) (s : ComputeState)
    (c : ComputeRequest) :
    (s.serve settings o c).2.started = s.started ∨
    ∃ id, c = .startCompute id ∧ (s.serve settings o c).2.started = s.started ++ [id] := by
  have commit {α : Type} (s : ComputeState) (t : Option AttemptTable) (a : α) :
      (s.commit t a).2.started = s.started := by cases t <;> rfl
  have commitLocked {α : Type} (id : String)
      (f : DatabricksComputeAttempt → Option DatabricksComputeAttempt) (absent : α)
      (done : DatabricksComputeAttempt → α) :
      (s.commitLocked id f absent done).2.started = s.started := by
    unfold ComputeState.commitLocked
    split
    · rfl
    · exact commit _ _ _
  unfold ComputeState.serve
  split
  · exact .inl rfl
  · cases c with
    | startCompute id => exact .inr ⟨id, rfl, rfl⟩
    | enterRun | linkRun | findActive | revision | resolveConnector | getAttempt
    | recordRuntimeStatus => exact .inl rfl
    | insertAttempt userId credentials =>
      simp only [ComputeState.respond]
      split
      · exact .inl rfl
      · exact .inl rfl
    | recordStartSubmission | recordStartUncertain | commitFailure => exact .inl (commit _ _ _)
    | cancelComputeObservation | resumeComputeObservation | claimDueAttempt | observeAttempt =>
      exact .inl (commitLocked _ _ _ _)
    | replaceCredentials userId revision =>
      exact .inl (commit (.mk s.attempts _ s.started) _ _)

/-- The rows that an answer shows are rows of the table. -/
theorem served_get {id : String} {a : DatabricksComputeAttempt}
    (h : (s.serve settings o (.getAttempt id)).1 = .ok (some a)) : a ∈ s.attempts.rows := by
  unfold ComputeState.serve at h
  split at h
  · cases h
  · exact (AttemptTable.get_mem (Except.ok.inj h)).1

/-- An attempt is created under an identifier that was not used before. -/
theorem served_insert {userId : String} {credentials : ComputeCredentials}
    {a : DatabricksComputeAttempt}
    (h : (s.serve settings o (.insertAttempt userId credentials)).1 = .ok (some a)) :
    (∀ b ∈ s.attempts.rows, b.id ≠ a.id) ∧
      a ∈ (s.serve settings o (.insertAttempt userId credentials)).2.attempts.rows := by
  unfold ComputeState.serve at h ⊢
  split at h
  · cases h
  · simp only [ComputeState.respond] at h ⊢
    split at h
    · cases h
    · rename_i t ht
      obtain rfl := Option.some.inj (Except.ok.inj h)
      have rows := AttemptTable.ofRows_eq ht
      have nodup := t.primaryKey
      rw [rows, List.map_append, List.nodup_append] at nodup
      refine ⟨fun b hb same => ?_, ?_⟩
      · exact nodup.2.2 b.id (List.mem_map_of_mem hb) _ (List.mem_singleton_self _) same
      · rw [rows]
        exact List.mem_append_right _ (List.mem_singleton_self _)

end Tables

/-! ## The invariant -/

/-- The fence of the attempts, and the attempts that the calls have created and started. -/
structure Coordinated (s : ComputeState) (views : List StartView) : Prop where
  fenced : ∀ a ∈ s.attempts.rows, a.Fenced
  reads : ∀ (i : Nat) (v : StartView), views[i]? = some v → ∀ a ∈ v.reads, a.Fenced
  created : ∀ (i : Nat) (v : StartView) (id : String), views[i]? = some v → v.created = some id →
    ∃ a ∈ s.attempts.rows, a.id = id
  apart : ∀ (i j : Nat) (v w : StartView) (id : String), views[i]? = some v → views[j]? = some w →
    v.created = some id → w.created = some id → i = j
  nodup : s.started.Nodup
  asked : ∀ id ∈ s.started, ∃ (i : Nat) (v : StartView), views[i]? = some v ∧
    v.created = some id ∧ v.asked = true

section Invariant

variable {settings : StartupSettings} {o : ComputeOracle} {s : ComputeState}
  {views : List StartView} {i : Nat} {v : StartView} {c : ComputeRequest}

/-- A call keeps to the attempt it has created. -/
theorem observe_mono (allowed : startProtocol.Allowed v c) (r : Except Exn c.Answer) :
    (∀ id, v.created = some id → (startProtocol.observe v c r).created = some id) ∧
      (v.asked = true → (startProtocol.observe v c r).asked = true) := by
  cases c with
  | insertAttempt userId credentials =>
    have none : v.created = none := allowed
    refine ⟨fun id hid => ?_, fun asked => ?_⟩
    · rw [none] at hid
      cases hid
    · rcases r with e | (_ | a)
      · exact asked
      · exact asked
      · exact asked
  | getAttempt id =>
    rcases r with e | (_ | a)
    · exact ⟨fun _ h => h, fun h => h⟩
    · exact ⟨fun _ h => h, fun h => h⟩
    · exact ⟨fun _ h => h, fun h => h⟩
  | startCompute id => exact ⟨fun _ h => h, fun _ => rfl⟩
  | enterRun | linkRun | findActive | revision | resolveConnector | recordStartSubmission
  | recordStartUncertain | commitFailure | recordRuntimeStatus | cancelComputeObservation
  | resumeComputeObservation | claimDueAttempt | observeAttempt | replaceCredentials =>
    exact ⟨fun _ h => h, fun h => h⟩

/-- An attempt that a call has newly created was inserted with this request. -/
theorem created_observe {id : String}
    (h : (startProtocol.observe v c (s.serve settings o c).1).created = some id) :
    v.created = some id ∨
    (∀ b ∈ s.attempts.rows, b.id ≠ id) ∧ ∃ a ∈ (s.serve settings o c).2.attempts.rows, a.id = id := by
  cases c with
  | insertAttempt userId credentials =>
    generalize hr : (s.serve settings o (.insertAttempt userId credentials)).1 = r at h
    rcases r with e | (_ | a)
    · exact .inl h
    · exact .inl h
    · obtain rfl := Option.some.inj h
      have inserted := served_insert hr
      exact .inr ⟨inserted.1, a, inserted.2, rfl⟩
  | getAttempt id =>
    generalize (s.serve settings o (.getAttempt id)).1 = r at h
    rcases r with e | (_ | a)
    · exact .inl h
    · exact .inl h
    · exact .inl h
  | startCompute id => exact .inl h
  | enterRun | linkRun | findActive | revision | resolveConnector | recordStartSubmission
  | recordStartUncertain | commitFailure | recordRuntimeStatus | cancelComputeObservation
  | resumeComputeObservation | claimDueAttempt | observeAttempt | replaceCredentials => exact .inl h

/-- A row that a call has newly read is a row of the table. -/
theorem reads_observe {a : DatabricksComputeAttempt}
    (h : a ∈ (startProtocol.observe v c (s.serve settings o c).1).reads) :
    a ∈ v.reads ∨ a ∈ s.attempts.rows := by
  cases c with
  | getAttempt id =>
    generalize hr : (s.serve settings o (.getAttempt id)).1 = r at h
    rcases r with e | (_ | b)
    · exact .inl h
    · exact .inl h
    · rcases List.mem_cons.1 h with rfl | h
      · exact .inr (served_get hr)
      · exact .inl h
  | insertAttempt userId credentials =>
    generalize (s.serve settings o (.insertAttempt userId credentials)).1 = r at h
    rcases r with e | (_ | b)
    · exact .inl h
    · exact .inl h
    · exact .inl h
  | startCompute id => exact .inl h
  | enterRun | linkRun | findActive | revision | resolveConnector | recordStartSubmission
  | recordStartUncertain | commitFailure | recordRuntimeStatus | cancelComputeObservation
  | resumeComputeObservation | claimDueAttempt | observeAttempt | replaceCredentials => exact .inl h

theorem Coordinated.sound (h : Coordinated s views) (hv : views[i]? = some v)
    (allowed : startProtocol.Allowed v c) : c.Sound := by
  cases c with
  | commitFailure read error => exact ⟨h.reads i v hv read allowed.1, allowed.2⟩
  | _ => trivial

theorem Coordinated.step (h : Coordinated s views) (hv : views[i]? = some v)
    (allowed : startProtocol.Allowed v c) :
    Coordinated (s.serve settings o c).2
      (views.set i (startProtocol.observe v c (s.serve settings o c).1)) := by
  have table := rewritten_serve settings o h.fenced (h.sound hv allowed)
  have mono := observe_mono allowed (s.serve settings o c).1
  have self := Workload.getElem?_set_self (startProtocol.observe v c (s.serve settings o c).1) hv
  -- a view is changed by its own requests only
  have old {j : Nat} {w : StartView} {id : String}
      (hj : (views.set i (startProtocol.observe v c (s.serve settings o c).1))[j]? = some w)
      (hid : w.created = some id) :
      (∃ w', views[j]? = some w' ∧ w'.created = some id) ∨ j = i ∧
        (∀ b ∈ s.attempts.rows, b.id ≠ id) ∧
          ∃ a ∈ (s.serve settings o c).2.attempts.rows, a.id = id := by
    rcases Workload.getElem?_set_cases hj with ⟨rfl, rfl⟩ | ⟨-, hj⟩
    · rcases created_observe hid with hid | fresh
      · exact .inl ⟨v, hv, hid⟩
      · exact .inr ⟨rfl, fresh⟩
    · exact .inl ⟨w, hj, hid⟩
  refine ⟨table.fenced, ?_, ?_, ?_, ?_, ?_⟩
  · intro j w hj a ha
    rcases Workload.getElem?_set_cases hj with ⟨rfl, rfl⟩ | ⟨-, hj⟩
    · rcases reads_observe ha with ha | ha
      · exact h.reads j v hv a ha
      · exact h.fenced a ha
    · exact h.reads j w hj a ha
  · intro j w id hj hid
    rcases old hj hid with ⟨w', hw', hid'⟩ | ⟨-, -, a, ha, same⟩
    · obtain ⟨a, ha, rfl⟩ := h.created j w' id hw' hid'
      obtain ⟨a', ha', same, -⟩ := table.mem ha
      exact ⟨a', ha', same⟩
    · exact ⟨a, ha, same⟩
  · intro j k w u id hj hk hw hu
    rcases old hj hw with ⟨w', hw', hid⟩ | ⟨rfl, unused, -⟩
    · rcases old hk hu with ⟨u', hu', hid'⟩ | ⟨rfl, unused, -⟩
      · exact h.apart j k w' u' id hw' hu' hid hid'
      · obtain ⟨a, ha, same⟩ := h.created j w' id hw' hid
        exact absurd same (unused a ha)
    · rcases old hk hu with ⟨u', hu', hid'⟩ | ⟨rfl, -, -⟩
      · obtain ⟨a, ha, same⟩ := h.created k u' id hu' hid'
        exact absurd same (unused a ha)
      · rfl
  · rcases started_serve settings o s c with same | ⟨id, rfl, more⟩
    · rw [same]
      exact h.nodup
    · rw [more, List.nodup_append]
      refine ⟨h.nodup, List.nodup_singleton id, fun x hx y hy same => ?_⟩
      -- the provider was asked for this attempt by the call that created it, which is this one
      rw [List.mem_singleton.1 hy] at same
      obtain ⟨j, w, hw, created, asked⟩ := h.asked x hx
      rw [same] at created
      have index := h.apart j i w v id hw hv created allowed.1
      rw [index, hv] at hw
      cases hw
      rw [allowed.2] at asked
      cases asked
  · have kept {id : String} (hid : id ∈ s.started) :
        ∃ (j : Nat) (w : StartView),
          (views.set i (startProtocol.observe v c (s.serve settings o c).1))[j]? = some w ∧
          w.created = some id ∧ w.asked = true := by
      obtain ⟨j, w, hw, created, asked⟩ := h.asked id hid
      by_cases index : j = i
      · rw [index, hv] at hw
        cases hw
        exact ⟨i, _, self, mono.1 id created, mono.2 asked⟩
      · refine ⟨j, w, ?_, created, asked⟩
        rw [List.getElem?_set_ne (Ne.symm index)]
        exact hw
    intro id hid
    rcases started_serve settings o s c with same | ⟨x, rfl, more⟩
    · rw [same] at hid
      exact kept hid
    · rw [more] at hid
      rcases List.mem_append.1 hid with hid | hid
      · exact kept hid
      · rw [List.mem_singleton.1 hid]
        exact ⟨i, _, self, allowed.1, rfl⟩

theorem Coordinated.call (h : Coordinated s views) : Coordinated s (views ++ [({} : StartView)]) := by
  refine ⟨h.fenced, ?_, ?_, ?_, h.nodup, ?_⟩
  · intro j w hj a ha
    rcases Workload.getElem?_concat_cases hj with hj | rfl
    · exact h.reads j w hj a ha
    · cases ha
  · intro j w id hj hid
    rcases Workload.getElem?_concat_cases hj with hj | rfl
    · exact h.created j w id hj hid
    · cases hid
  · intro j k w u id hj hk hw hu
    rcases Workload.getElem?_concat_cases hj with hj | rfl
    · rcases Workload.getElem?_concat_cases hk with hk | rfl
      · exact h.apart j k w u id hj hk hw hu
      · cases hu
    · cases hw
  · intro id hid
    obtain ⟨j, w, hw, rest⟩ := h.asked id hid
    exact ⟨j, w, Workload.getElem?_concat_left hw, rest⟩

theorem computeWorkload_follows (settings : StartupSettings) : (computeWorkload settings).Follows :=
  program_conforms settings.upper

theorem served_eq {r : Except Exn c.Answer} {shared : ComputeState}
    (h : (computeWorkload settings).serve o i s c = some (r, shared)) :
    r = (s.serve settings o c).1 ∧ shared = (s.serve settings o c).2 := by
  have answer : s.serve settings o c = (r, shared) := Option.some.inj h
  rw [answer]
  exact ⟨rfl, rfl⟩

theorem coordinated_init (empty : s.attempts.rows = [] ∧ s.started = []) : Coordinated s [] := by
  refine ⟨?_, ?_, ?_, ?_, ?_, ?_⟩
  · intro a ha
    rw [empty.1] at ha
    exact absurd ha List.not_mem_nil
  · exact fun i v hv => nomatch hv
  · exact fun i v id hv => nomatch hv
  · exact fun i j v w id hv => nomatch hv
  · rw [empty.2]
    exact .nil
  · intro id hid
    rw [empty.2] at hid
    exact absurd hid List.not_mem_nil

theorem coordinated_of_reachable {p : Pool ComputeRequest.Answer Exn Unit StartView ComputeState}
    (h : (computeSystem settings).Reachable p) : Coordinated p.shared p.views := by
  refine Workload.invariant (computeWorkload_follows settings) (fun t => coordinated_init) ?_ ?_ h
  · exact fun t views k inv => inv.call
  · intro t views i o view c r shared inv hv allowed served
    obtain ⟨rfl, rfl⟩ := served_eq served
    exact inv.step hv allowed

end Invariant

/-! ## Starts are deduplicated -/

section Theorems

variable {settings : StartupSettings}
  {s s' : Pool ComputeRequest.Answer Exn Unit StartView ComputeState}

theorem AttemptTable.get_eq {t : AttemptTable} {a : DatabricksComputeAttempt} (h : a ∈ t.rows) :
    t.get a.id = some a := by
  unfold AttemptTable.get
  cases found : t.rows.find? fun b => b.id = a.id with
  | none =>
    have := List.find?_eq_none.1 found a h
    simp at this
  | some b =>
    obtain ⟨hb, same⟩ := AttemptTable.get_mem found
    rw [AttemptTable.eq_of_id hb h same]

theorem deadlineAt_of_steps (h : (computeSystem settings).Reachable s)
    (steps : (computeSystem settings).Steps s s') :
    ∀ a ∈ s.shared.attempts.rows, ∃ a' ∈ s'.shared.attempts.rows,
      a'.id = a.id ∧ a'.deadlineAt = a.deadlineAt := by
  refine Workload.guarantee (computeWorkload_follows settings)
    (G := fun t t' => ∀ a ∈ t.attempts.rows, ∃ a' ∈ t'.attempts.rows,
      a'.id = a.id ∧ a'.deadlineAt = a.deadlineAt)
    ?_ ?_ (fun s h => coordinated_of_reachable h) ?_ h steps
  · exact fun t a ha => ⟨a, ha, rfl, rfl⟩
  · intro t u v first second a ha
    obtain ⟨b, hb, id, deadline⟩ := first a ha
    obtain ⟨d, hd, id', deadline'⟩ := second b hb
    exact ⟨d, hd, id'.trans id, deadline'.trans deadline⟩
  · intro t views i o view c r shared inv hv allowed served a ha
    obtain ⟨-, rfl⟩ := served_eq served
    obtain ⟨a', ha', id, deadline, -⟩ :=
      (rewritten_serve settings o inv.fenced (inv.sound hv allowed)).mem ha
    exact ⟨a', ha', id, deadline⟩

/-- The active key belongs to the active attempt of a compute, deadlines are fixed, and the provider is
asked at most once for each attempt. -/
theorem starts_deduplicated (h : (computeSystem settings).Reachable s) :
    (∀ a ∈ s.shared.attempts.rows, a.activeKey =
      if a.status ∈ [AttemptStatus.starting, .cancelled] then some a.computeKey else none) ∧
    (∀ a ∈ s.shared.attempts.rows, ∀ b ∈ s.shared.attempts.rows, a.activeKey.isSome →
      b.activeKey.isSome → a.computeKey = b.computeKey → a = b) ∧
    (∀ s', (computeSystem settings).Steps s s' → ∀ a ∈ s.shared.attempts.rows,
      ∃ a', s'.shared.attempts.get a.id = some a' ∧ a'.deadlineAt = a.deadlineAt) ∧
    ∀ id, s.shared.started.count id ≤ 1 := by
  have inv := coordinated_of_reachable h
  refine ⟨inv.fenced, ?_, ?_, ?_⟩
  · intro a ha b hb activeA activeB same
    have key {a : DatabricksComputeAttempt} (fenced : a.Fenced) (active : a.activeKey.isSome) :
        a.activeKey = some a.computeKey := by
      rw [fenced] at active ⊢
      split_ifs at active ⊢ with status
      · rfl
      · cases active
    refine AttemptTable.eq_of_activeKey ha hb (key (inv.fenced a ha) activeA) ?_
    rw [same]
    exact key (inv.fenced b hb) activeB
  · intro s' steps a ha
    obtain ⟨a', ha', id, deadline⟩ := deadlineAt_of_steps h steps a ha
    exact ⟨a', id ▸ AttemptTable.get_eq ha', deadline⟩
  · exact List.nodup_iff_count_le_one.1 inv.nodup

/-! ## Ended attempts -/

/-- When the turn commits a failure, it finds the attempt not ended. -/
def FailureInTime (s : Pool ComputeRequest.Answer Exn Unit StartView ComputeState) :
    Turn ComputeCall ComputeOracle → Prop
  | .start _ => True
  | .answer i _ => ∀ thread c, s.threads[i]? = some thread → thread.program.head = some c →
    ∀ a ∈ s.shared.attempts.rows, ¬ c.Overwrites a

/-- An ended attempt keeps its status, its time and its error while every failure is committed in
time. -/
theorem ended_attempt_stays_ended
    (h : ((computeSystem settings).restrict FailureInTime).Reachable s)
    (steps : ((computeSystem settings).restrict FailureInTime).Steps s s') :
    ∀ a ∈ s.shared.attempts.rows, a.status ∈ endedStatuses →
      ∃ a', s'.shared.attempts.get a.id = some a' ∧ a'.status = a.status ∧
        a'.completedAt = a.completedAt ∧ a'.errorCode = a.errorCode := by
  have kept : ∀ a ∈ s.shared.attempts.rows, ∃ a' ∈ s'.shared.attempts.rows,
      a'.id = a.id ∧ KeepsEnd a a' := by
    refine Workload.guarantee_restrict (computeWorkload_follows settings)
      (G := fun t t' => ∀ a ∈ t.attempts.rows, ∃ a' ∈ t'.attempts.rows, a'.id = a.id ∧ KeepsEnd a a')
      ?_ ?_ (fun s h => coordinated_of_reachable (.of_restrict h)) ?_ h steps
    · exact fun t a ha => ⟨a, ha, rfl, .refl⟩
    · intro t u v first second a ha
      obtain ⟨b, hb, id, keeps⟩ := first a ha
      obtain ⟨d, hd, id', keeps'⟩ := second b hb
      refine ⟨d, hd, id'.trans id, fun ended => ?_⟩
      obtain ⟨status, completed, error⟩ := keeps ended
      obtain ⟨status', completed', error'⟩ := keeps' (status ▸ ended)
      exact ⟨status'.trans status, completed'.trans completed, error'.trans error⟩
    · intro s i o thread c next r shared inTime inv hi hp allowed served a ha
      obtain ⟨-, rfl⟩ := served_eq served
      have sound := inv.sound (Workload.getElem?_views hi) allowed
      obtain ⟨a', ha', id, -, keeps⟩ := (rewritten_serve settings o inv.fenced sound).mem ha
      have notOver := inTime thread c hi (by rw [hp]; rfl) a ha
      exact ⟨a', ha', id, keeps notOver⟩
  intro a ha ended
  obtain ⟨a', ha', id, keeps⟩ := kept a ha
  exact ⟨a', id ▸ AttemptTable.get_eq ha', keeps ended⟩

end Theorems

/-! ## A failure that comes too late -/

def StartupSettings.sample : StartupSettings where
  startupTimeoutSeconds := 600
  startupPollSeconds := 10
  startupMaxPollSeconds := 60
  upper := id
  jittered delay _ := delay

def StartArgs.sample : StartArgs where
  userId := "user"
  userActive := true
  credentials := {
    workspaceId := "workspace", computeKind := "cluster", computeId := "compute"
    connectionGeneration := "generation", computeKey := "key" }

/-- No attempts, and a stored connection of every user. -/
def noAttempts : Pool ComputeRequest.Answer Exn Unit StartView ComputeState where
  shared := { attempts := ⟨[], by decide, by decide⟩, revisions := fun _ => some "generation" }

/-- The provider refuses the start, slowly. -/
def refusal : ComputeOracle where
  now := 0
  newId := "attempt"
  start := .error (.connector { code := .permissionDenied, summary := "Refused.", retryable := false })

/-- A call creates an attempt, asks the provider in vain and reads the attempt to record the failure. -/
def failingStart : List (Turn ComputeCall ComputeOracle) :=
  .start (.requestComputeStart .sample) :: List.replicate 8 (.answer 0 refusal)

/-- Meanwhile a poll finds the compute running. -/
def pollReady : List (Turn ComputeCall ComputeOracle) :=
  [.start (.claimDueAttempt 60), .answer 1 { now := seconds 20, due := "attempt", newId := "token" },
    .start (.observeAttempt "attempt" "token" "RUNNING" none), .answer 2 { now := seconds 21 }]

/-- The statuses of the attempts. -/
def statuses (s : Pool ComputeRequest.Answer Exn Unit StartView ComputeState) :
    List (String × AttemptStatus × Option String) :=
  s.shared.attempts.rows.map fun a => (a.id, a.status, a.activeKey)

theorem noAttempts_reachable : (computeSystem .sample).Reachable noAttempts :=
  .init ⟨⟨rfl, rfl⟩, rfl⟩

theorem ended_attempt_overwritten : ∃ s s', (computeSystem .sample).Reachable s ∧
    (computeSystem .sample).Steps s s' ∧ statuses s = [("attempt", .ready, none)] ∧
    statuses s' = [("attempt", .failed, none)] := by
  have before : (run (computeWorkload .sample).step noAttempts (failingStart ++ pollReady)).map
      statuses = some [("attempt", .ready, none)] := by decide +kernel
  obtain ⟨s, hs, ready⟩ := Option.map_eq_some_iff.1 before
  have after : ((run (computeWorkload .sample).step noAttempts (failingStart ++ pollReady)).bind
      fun s => run (computeWorkload .sample).step s [.answer 0 { now := seconds 30 }]).map
      statuses = some [("attempt", .failed, none)] := by decide +kernel
  obtain ⟨s', hs', failed⟩ := Option.map_eq_some_iff.1 after
  rw [hs] at hs'
  exact ⟨s, s', noAttempts_reachable.steps (steps_of_run hs), steps_of_run hs', ready, failed⟩

/-- The provider has been asked for the attempt of the sample call. -/
theorem starts_deduplicated_asked : ∃ s, (computeSystem .sample).Reachable s ∧
    statuses s = [("attempt", .starting, some "key")] ∧ s.shared.started = ["attempt"] ∧
    ∀ id, s.shared.started.count id ≤ 1 := by
  have asked : (run (computeWorkload .sample).step noAttempts failingStart).map
      (fun s => (statuses s, s.shared.started)) =
      some ([("attempt", .starting, some "key")], ["attempt"]) := by decide +kernel
  obtain ⟨s, hs, found⟩ := Option.map_eq_some_iff.1 asked
  obtain ⟨rows, started⟩ := Prod.mk.inj found
  have reachable := noAttempts_reachable.steps (steps_of_run hs)
  exact ⟨s, reachable, rows, started, (starts_deduplicated reachable).2.2.2⟩

/-- A decision of `FailureInTime`. -/
def failureInTime (s : Pool ComputeRequest.Answer Exn Unit StartView ComputeState) :
    Turn ComputeCall ComputeOracle → Bool
  | .start _ => true
  | .answer i _ =>
    match (s.threads[i]?).bind fun thread => thread.program.head with
    | some (.commitFailure read _) => s.shared.attempts.rows.all fun a =>
      !(a.id = read.id && a.status ∈ endedStatuses)
    | _ => true

theorem failureInTime_sound (s : Pool ComputeRequest.Answer Exn Unit StartView ComputeState)
    (turn : Turn ComputeCall ComputeOracle) (h : failureInTime s turn = true) :
    FailureInTime s turn := by
  cases turn with
  | start k => trivial
  | answer i o =>
    intro thread c hi hp a ha late
    cases c with
    | commitFailure read error =>
      simp only [failureInTime, hi, Option.bind_some, hp, List.all_eq_true] at h
      have := h a ha
      simp [late.1, late.2] at this
    | _ => exact late

/-- The poll comes before the failure; then the owner tries to cancel the observation. -/
theorem ended_attempt_stays_ended_ready : ∃ s s',
    ((computeSystem .sample).restrict FailureInTime).Steps s s' ∧
    statuses s = [("attempt", .ready, none)] ∧ ∀ a ∈ s.shared.attempts.rows,
      ∃ a', s'.shared.attempts.get a.id = some a' ∧ a'.status = a.status := by
  have before : (run (checked failureInTime (computeWorkload .sample).step) noAttempts
      (failingStart ++ pollReady)).map statuses = some [("attempt", .ready, none)] := by
    decide +kernel
  obtain ⟨s, hs, ready⟩ := Option.map_eq_some_iff.1 before
  have after : ((run (checked failureInTime (computeWorkload .sample).step) noAttempts
      (failingStart ++ pollReady)).bind fun s =>
        run (checked failureInTime (computeWorkload .sample).step) s
          [.start (.cancelComputeObservation "user" "attempt"), .answer 3 { now := seconds 30 }]).map
      statuses = some [("attempt", .ready, none)] := by decide +kernel
  obtain ⟨s', hs', -⟩ := Option.map_eq_some_iff.1 after
  rw [hs] at hs'
  have initial : ((computeSystem .sample).restrict FailureInTime).Reachable noAttempts :=
    .init ⟨⟨rfl, rfl⟩, rfl⟩
  have reachable := initial.steps (restrict_steps_of_checked failureInTime_sound hs)
  have steps : ((computeSystem .sample).restrict FailureInTime).Steps s s' :=
    restrict_steps_of_checked failureInTime_sound hs'
  refine ⟨s, s', steps, ready, fun a ha => ?_⟩
  have ended : a.status ∈ endedStatuses := by
    have row := List.mem_map_of_mem (f := fun a : DatabricksComputeAttempt =>
      (a.id, a.status, a.activeKey)) ha
    rw [show s.shared.attempts.rows.map _ = _ from ready, List.mem_singleton] at row
    rw [show a.status = .ready from congrArg (fun x => x.2.1) row]
    decide
  obtain ⟨a', found, status, -⟩ := ended_attempt_stays_ended reachable steps a ha ended
  exact ⟨a', found, status⟩

end DataMover
