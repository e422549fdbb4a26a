import DataMover.Auth.Safety
import DataMover.Joint

/-!
# Capabilities

The tokens of the flows are used once, a user has one open reset, and a registration is completed
once. A credential change ends the resets from before it: the commit of `change_password` is reached
with no open reset of the user left, and that of `complete_password_reset` with a reset used up.
-/

namespace DataMover

open ReadCommitted Program Transition

/-! ## Commits -/

/-- What is known at a commit that changes credentials. -/
structure AuthView.Completes (v : AuthView) : Prop where
  changed : ∀ userId current new, v.call = .changePassword userId current new →
    v.tx.listed .resets = some (.openOf userId, [])
  reset : ∀ raw password, v.call = .completePasswordReset raw password →
    ∃ k, v.consuming = some ⟨.resets, k⟩

/-- The protocol of the commits. -/
def commitProtocol : Protocol AuthReply AuthExn AuthView where
  Allowed v s := s = .commit → v.Sane → v.Completes
  observe v s answer := v.observe s answer

/-- No statement of the program is a commit. -/
abbrev Uncommitting {α : Type} (p : AuthProgram α) : Prop := Confined (· ≠ .commit) p

section Flows

variable {env : AuthEnv} {v : AuthView} {t : AuthTable} {q : t.Query} {change : t.Change}
  {userId : String} {now : Time} {α β : Type}

theorem uncommitting_updateEach (rows : List t.Row) :
    Uncommitting (Flow.updateEach t q change rows) := by
  induction rows with
  | nil => trivial
  | cons row rows ih => exact confined_call_bind nofun fun _ => ih.bind fun _ => trivial

theorem uncommitting_updateAll : Uncommitting (Flow.updateAll t q change) :=
  confined_call_bind nofun fun found => uncommitting_updateEach found.value

theorem uncommitting_revokeAllSessions : Uncommitting (Flow.revokeAllSessions userId now) :=
  uncommitting_updateAll.bind fun _ => trivial

theorem uncommitting_getUser {known : Flow.Known} {id : String} :
    Uncommitting (Flow.getUser known now id) := by
  unfold Flow.getUser
  split
  · trivial
  · refine confined_call_bind nofun fun found => ?_
    split <;> trivial

variable (env) in
/-- A part that commits nothing, and the rest of a flow. -/
theorem Follows.proceed {R : AuthView → α → Prop} {p : AuthProgram α} {f : α → AuthProgram β}
    (h : Follows env R v p) (quiet : Uncommitting p)
    (ok : ∀ w a, v.Extends w → R w a → Sat commitProtocol (fun _ _ => True) w (f a)) :
    Sat commitProtocol (fun _ _ => True) v (p >>= f) := by
  have known : Sat commitProtocol (fun w r => v.Extends w ∧ ∀ a, r = .ok a → R w a) v p :=
    Sat.confined h quiet (fun _ _ other commit => absurd commit other) rfl
  exact Sat.bind known (fun w a hr => ok w a hr.1 (hr.2 a rfl)) fun _ _ _ => trivial

/-- A statement other than a commit, and the rest of a flow. -/
theorem proceed {s : AuthStmt} {f : Stamped s.Answer → AuthProgram β} (other : s ≠ .commit)
    (ok : ∀ reply, Sat commitProtocol (fun _ _ => True) (v.observe s (.ok reply)) (f reply)) :
    Sat commitProtocol (fun _ _ => True) v (Flow.execute s >>= f) :=
  Sat.call_bind (fun commit => absurd commit other) ok fun _ => trivial

/-- An update of a user changes no list of resets. -/
theorem listed_update {k : String} {q : UserQuery} {change : UserChange}
    (reply : Stamped (Option User)) :
    (v.observe (.update .users k q change) (.ok reply)).tx.listed .resets =
      v.tx.listed .resets := by
  obtain ⟨value, now, drawn, versions⟩ := reply
  have other : AuthTable.resets ≠ .users := nofun
  cases value with
  | none => exact Tx.listed_missed_of_ne other
  | some row => exact Tx.listed_wrote_of_ne other

/-- New credentials leave the resets as they are. -/
theorem sat_setCredentials {user : User} {validated : String} :
    Sat commitProtocol (fun w r => r = .ok () → v.Extends w ∧ w.consuming = v.consuming ∧
      w.tx.listed .resets = v.tx.listed .resets) v (Flow.setCredentials env user validated) := by
  refine Sat.call_bind (by rintro ⟨⟩) (fun written => ?_) (by rintro _ ⟨⟩)
  have onward := AuthView.extends_observe (v := v) (.update .users user.id .any
    (.credentials (env.hash validated) (user.securityVersion + 1))) (.ok written)
  have consuming : (v.observe (.update .users user.id .any
      (.credentials (env.hash validated) (user.securityVersion + 1))) (.ok written)).consuming =
        v.consuming := by
    simp only [AuthView.observe, AuthView.note]
    split_ifs <;> rfl
  split
  · exact fun _ => ⟨onward, consuming, listed_update written⟩
  · rintro ⟨⟩

theorem completes_commit {f : Stamped Unit → AuthProgram α} (completes : v.Sane → v.Completes)
    (rest : ∀ a, Sat commitProtocol (fun _ _ => True) (v.observe .commit (.ok a)) (f a)) :
    Sat commitProtocol (fun _ _ => True) v (Flow.commit >>= f) :=
  Sat.call_bind (fun _ => completes) rest fun _ => trivial

theorem completes_changePassword {current new : String} (fresh : v.Fresh)
    (call : v.call = .changePassword userId current new) :
    Sat commitProtocol (fun _ _ => True) v (Flow.changePassword env userId current new) := by
  refine proceed nofun fun found => ?_
  have locked := locked_lock (v := v) (t := .users) (k := userId) (q := (.any : UserQuery)) found
  have fresh : (v.observe (.lock .users userId .any) (.ok found)).Fresh :=
    fresh.observe (s := .lock .users userId .any) trivial _
  split
  · trivial
  · rename_i user same
    have locks : (v.observe (.lock .users userId .any) (.ok found)).Locks user.id
        user.securityVersion := ⟨fresh.bumped, user, (locked user same).1, rfl⟩
    split
    · trivial
    · refine Follows.proceed env (R := fun x _ => x = _) (.lift fun _ _ => rfl)
        confined_lift fun _ validated _ e => ?_
      subst e
      refine (follows_revokeAllSessions fun _ => locks).proceed env
        uncommitting_revokeAllSessions fun w₁ _ on₁ swept₁ => ?_
      refine (follows_resets fun _ => swept₁.1.locks nofun locks).proceed env
        uncommitting_updateAll fun w₂ _ on₂ swept₂ => ?_
      refine Sat.bind sat_setCredentials (fun w₃ _ kept => ?_) fun _ _ _ => trivial
      obtain ⟨on₃, -, listed⟩ := kept rfl
      refine completes_commit (fun sane => ?_) fun _ => trivial
      have onward := (on₁.trans on₂).trans on₃
      obtain ⟨own, -⟩ := (onward.sane sane).2 user same
      have called : w₃.call = .changePassword userId current new :=
        ((AuthView.extends_observe _ _).trans onward).call.trans call
      refine ⟨fun u c n e => ?_, fun raw password e => ?_⟩
      · cases called.symm.trans e
        exact listed.trans (own ▸ swept₂.2 (on₃.sane sane))
      · cases called.symm.trans e

/-- The reset is used up at the commit. -/
theorem completes_consumeReset {user : User} {reset : PasswordReset}
    {tokenHash raw password : String} (call : v.call = .completePasswordReset raw password) :
    Sat commitProtocol (fun _ _ => True) v
      (Flow.consumeReset env user reset tokenHash password now) := by
  refine Follows.proceed env (R := fun x _ => x = v) (.lift fun _ _ => rfl)
    confined_lift fun _ validated _ e => ?_
  subst e
  refine proceed nofun fun consumed => ?_
  split
  · exact proceed nofun fun _ => trivial
  · rename_i row found
    refine (follows_updateAll (t := .resets) nofun ⟨rfl, rfl⟩ resets_leave).proceed env
      uncommitting_updateAll fun w₁ _ on₁ swept₁ => ?_
    refine Follows.proceed env (R := fun w _ => w₁.Beside .sessions w)
      ((follows_updateAll (t := .sessions) nofun ⟨rfl, rfl⟩ sessions_leave).bind
        fun _ _ _ swept => .return swept.1)
      uncommitting_revokeAllSessions fun w₂ _ on₂ beside => ?_
    refine Sat.bind sat_setCredentials (fun w₃ _ kept => ?_) fun _ _ _ => trivial
    obtain ⟨on₃, consuming, -⟩ := kept rfl
    refine completes_commit (fun sane => ?_) fun _ => trivial
    have called : w₃.call = .completePasswordReset raw password :=
      ((AuthView.extends_observe _ _).trans ((on₁.trans on₂).trans on₃)).call.trans call
    refine ⟨fun u c n e => ?_, fun raw password e => ⟨reset.id, consuming.trans ?_⟩⟩
    · cases called.symm.trans e
    · exact beside.consuming.trans (swept₁.1.consuming.trans (consuming_update rfl found))

theorem completes_completePasswordReset {raw password : String}
    (call : v.call = .completePasswordReset raw password) :
    Sat commitProtocol (fun _ _ => True) v (Flow.completePasswordReset env raw password) := by
  have extended {w w' : AuthView} (h : w.call = .completePasswordReset raw password)
      (onward : w.Extends w') : w'.call = .completePasswordReset raw password :=
    onward.call.trans h
  refine proceed nofun fun found => ?_
  have call := extended call (AuthView.extends_observe _ (.ok found))
  split
  · trivial
  · refine proceed nofun fun locked => ?_
    have call := extended call (AuthView.extends_observe _ (.ok locked))
    split
    · trivial
    · split
      · trivial
      · refine proceed nofun fun again => ?_
        have call := extended call (AuthView.extends_observe _ (.ok again))
        split
        · trivial
        · split
          · trivial
          · refine Sat.bind (uncommitting_getUser.sat
              (I := fun w => w.call = .completePasswordReset raw password) call
              fun w s called quiet => ⟨fun commit => absurd commit quiet, fun r =>
                extended called (AuthView.extends_observe s r)⟩) (fun w loaded call => ?_)
              fun _ _ _ => trivial
            obtain ⟨owner, known, now⟩ := loaded
            cases owner with
            | none => trivial
            | some owner =>
              dsimp only
              split
              · trivial
              · exact completes_consumeReset call

/-- The database session of a request is closed without a commit. -/
theorem completes_closing {p : AuthProgram AuthOutcome}
    (h : Sat commitProtocol (fun _ _ => True) v p) :
    Sat commitProtocol (fun _ _ => True) v (Flow.closing p) := by
  refine Sat.bind (R := fun _ _ => True) (sat_attempt.2 h) (fun w outcome _ => ?_)
    fun _ _ _ => trivial
  refine Sat.bind (R := fun _ _ => True) (sat_attempt.2 (sat_call.2 ⟨nofun, fun _ => trivial⟩))
    (fun _ _ _ => ?_) fun _ _ _ => trivial
  exact sat_lift.2 trivial

theorem completes_done {p : AuthProgram Unit} (h : Sat commitProtocol (fun _ _ => True) v p) :
    Sat commitProtocol (fun _ _ => True) v (do p; return .done : AuthProgram AuthOutcome) :=
  Sat.bind h (fun _ _ _ => trivial) fun _ _ _ => trivial

/-- The commits of a call are as its flow has prepared them. -/
theorem program_completes (env : AuthEnv) (call : AuthCall) :
    Sat commitProtocol (fun _ _ => True) { call } (call.program env) := by
  have fresh : AuthView.Fresh { call } := ⟨rfl, rfl, rfl, rfl, rfl, rfl⟩
  have ordinary (other : ∀ v : AuthView, v.call = call → v.Completes) :
      Sat commitProtocol (fun _ _ => True) { call } (call.program env) := by
    refine Sat.mono ((confined_true _).sat (I := fun v : AuthView => v.call = call) rfl
      fun v s called _ => ⟨fun _ _ => other v called, fun r => ?_⟩) fun _ _ _ => trivial
    exact (AuthView.extends_observe s r).call.trans called
  cases call with
  | changePassword userId current new =>
    exact completes_closing (completes_done (completes_changePassword fresh rfl))
  | completePasswordReset raw password =>
    exact completes_closing (completes_done (completes_completePasswordReset rfl))
  | _ =>
    refine ordinary fun v called => ⟨fun u c n e => ?_, fun raw password e => ?_⟩
    · cases called.symm.trans e
    · cases called.symm.trans e

end Flows

/-! ## Single use -/

section SingleUse

variable {env : AuthEnv} {s s' : AuthPool}

/-- The commit of the call takes effect. -/
def Commits (env : AuthEnv) (call : AuthCall) (s s' : AuthPool) : Prop :=
  ∃ i thread next o, s.threads[i]? = some thread ∧ thread.view.call = call ∧
    thread.program = .request .commit next ∧
    (authWorkload env).step s (.answer i o) = some s' ∧ s'.shared = s.shared.commit i

/-- The calls under the protocol of the commits. -/
abbrev commitWorkload (env : AuthEnv) :
    Workload AuthReply AuthExn AuthOutcome AuthView (Db authSchema) AuthCall AuthOracle :=
  { authWorkload env with protocol := commitProtocol }

/-- What is known at the commit of a call. -/
theorem Commits.completes (h : (authSystem env).Reachable s) {call : AuthCall}
    (commits : Commits env call s s') : ∃ i v, s.views[i]? = some v ∧ v.call = call ∧
      v.Completes ∧ s'.shared = s.shared.commit i := by
  obtain ⟨i, thread, next, o, hi, called, request, -, shared⟩ := commits
  have view := Workload.getElem?_views hi
  have follows : (commitWorkload env).Follows := program_completes env
  have watched : ((commitWorkload env).system Unused).Reachable s := h
  refine ⟨i, thread.view, view, called, ?_, shared⟩
  exact Workload.allowed_request follows watched hi request rfl
    ((reachable_authInv h).knows i thread.view view).sane

theorem Commits.steps {call : AuthCall} (commits : Commits env call s s') :
    (authSystem env).Steps s s' := by
  obtain ⟨i, -, -, o, -, -, -, step, -⟩ := commits
  exact .single ⟨.answer i o, step⟩

/-- The commit of a password change leaves no open reset of the user. -/
theorem Commits.changed (h : (authSystem env).Reachable s) {userId current new : String}
    (commits : Commits env (.changePassword userId current new) s s') {k : String}
    {r : PasswordReset} (committed : (s'.shared.cell ⟨.resets, k⟩).committed = some r)
    (owner : r.userId = userId) : IsUsed s'.shared .resets k := by
  obtain ⟨i, v, hi, called, completes, shared⟩ := commits.completes h
  have listed := completes.changed userId current new called
  refine ⟨r, committed, by_contra fun unused => ?_⟩
  rw [shared, Db.cell_commit, Cell.committed_commit] at committed
  have open_ : r.usedAt = none := by simpa [AuthTable.used] using unused
  have mem := ((reachable_authInv h).knows i v hi).lists .resets (.openOf userId) [] listed k r
    committed (decide_eq_true ⟨owner, open_⟩)
  cases mem

/-- The commit of a password reset leaves no reset of the user from before. -/
theorem Commits.completed (h : (authSystem env).Reachable s) {raw password : String}
    (commits : Commits env (.completePasswordReset raw password) s s') {k₀ k : String}
    {r₀ r : PasswordReset} (committed₀ : (s.shared.cell ⟨.resets, k₀⟩).committed = some r₀)
    (token : r₀.tokenHash = env.settings.hashToken raw)
    (committed : (s.shared.cell ⟨.resets, k⟩).committed = some r) (owner : r.userId = r₀.userId) :
    IsUsed s'.shared .resets k := by
  have inv := reachable_authInv h
  have later := run_evolves h commits.steps
  obtain ⟨i, v, hi, called, completes, shared⟩ := commits.completes h
  obtain ⟨k₁, consuming⟩ := completes.reset raw password called
  obtain ⟨⟨r₁, held, used, hash, token₁, presents⟩, unused, -⟩ :=
    (inv.knows i v hi).uses _ consuming
  have same : hash = env.settings.hashToken raw := by
    rw [called] at presents
    cases presents
    rfl
  -- the reset that is used up is the one with the token of the call
  obtain rfl : k₁ = k₀ := inv.distinct .resets k₁ k₀ r₁ r₀ hash
    (Cell.mem_versions.2 (.inr ⟨i, held⟩)) (Cell.mem_versions.2 (.inl committed₀)) token₁
    (congrArg some (token.trans same.symm))
  have open₀ : r₀.usedAt = none := by simpa [AuthTable.used] using unused r₀ committed₀
  by_cases open_ : r.usedAt = none
  · obtain rfl : k = k₁ := inv.single .resets k k₁ r r₀ r₀.userId nofun committed committed₀
      ((if_pos open_).trans (congrArg some owner)) (if_pos open₀)
    refine ⟨r₁, ?_, used⟩
    rw [shared, Db.cell_commit, Cell.committed_commit, Cell.visible_of_held held]
  · exact IsUsed.evolves (t := .resets) ⟨r, committed, Option.isSome_iff_ne_none.2 open_⟩ later

/-- What holds of the tokens of the flows: each is used up by one call, a user has one open reset,
the commit of a credential change leaves no reset of its user from before, and a user is registered
once. -/
structure SingleUse (env : AuthEnv) (s : AuthPool) : Prop where
  once : ∀ (i j : Nat) (thread other : Thread AuthReply AuthExn AuthOutcome AuthView)
    (outcome outcome' : AuthOutcome) (t : AuthTable) (hash : String),
    s.threads[i]? = some thread → thread.program = .pure outcome →
    s.threads[j]? = some other → other.program = .pure outcome' →
    thread.view.call.presents env = some (t, hash) →
    other.view.call.presents env = some (t, hash) → i = j
  single : ∀ k k' (r r' : PasswordReset), (s.shared.cell ⟨.resets, k⟩).committed = some r →
    (s.shared.cell ⟨.resets, k'⟩).committed = some r' → r.userId = r'.userId →
    r.usedAt = none → r'.usedAt = none → k = k'
  changed : ∀ userId current new (s₁ s' : AuthPool),
    Commits env (.changePassword userId current new) s s₁ → (authSystem env).Steps s₁ s' →
    ∀ k (r : PasswordReset), (s₁.shared.cell ⟨.resets, k⟩).committed = some r →
      r.userId = userId → IsUsed s'.shared .resets k
  completed : ∀ raw password (s₁ s' : AuthPool),
    Commits env (.completePasswordReset raw password) s s₁ → (authSystem env).Steps s₁ s' →
    ∀ k₀ k (r₀ r : PasswordReset), (s.shared.cell ⟨.resets, k₀⟩).committed = some r₀ →
      r₀.tokenHash = env.settings.hashToken raw →
      (s.shared.cell ⟨.resets, k⟩).committed = some r → r.userId = r₀.userId →
      IsUsed s'.shared .resets k
  registered : ∀ (i j : Nat) (thread other : Thread AuthReply AuthExn AuthOutcome AuthView)
    (outcome outcome' : AuthOutcome) k k' (r r' : RegistrationVerification),
    s.threads[i]? = some thread → thread.program = .pure outcome →
    s.threads[j]? = some other → other.program = .pure outcome' →
    thread.view.call.presents env = some (.verifications, r.tokenHash) →
    other.view.call.presents env = some (.verifications, r'.tokenHash) →
    (s.shared.cell ⟨.verifications, k⟩).committed = some r →
    (s.shared.cell ⟨.verifications, k'⟩).committed = some r' → r.userId = r'.userId → i = j

theorem capability_tokens_are_single_use (h : (authSystem env).Reachable s) :
    SingleUse env s where
  once _ _ _ _ _ _ _ _ hi returned hj returned' presents presents' :=
    eq_of_presents h hi returned hj returned' presents presents'
  single k k' r r' committed committed' owner unused unused' :=
    (reachable_authInv h).single .resets k k' r r' r'.userId nofun committed committed'
      ((if_pos unused).trans (congrArg some owner)) (if_pos unused')
  changed _ _ _ _ _ commits steps _ _ committed owner :=
    (commits.changed h committed owner).evolves (run_evolves (h.steps commits.steps) steps)
  completed _ _ _ _ commits steps _ _ _ _ committed₀ token committed owner :=
    (commits.completed h committed₀ token committed owner).evolves
      (run_evolves (h.steps commits.steps) steps)
  registered i j _ _ _ _ _ _ _ _ hi returned hj returned' presents presents' committed committed'
      owner :=
    (reachable_authInv h).registers i j _ _ _ (Workload.getElem?_views hi)
      (Workload.getElem?_views hj) (registers_of_returned h hi returned presents committed)
      (owner ▸ registers_of_returned h hj returned' presents' committed')

/-- A commit that is answered takes effect. -/
theorem exists_commits {i : Nat} {thread : Thread AuthReply AuthExn AuthOutcome AuthView}
    {next : Except AuthExn (AuthReply .commit) → AuthProgram AuthOutcome}
    (hi : s.threads[i]? = some thread) (request : thread.program = .request .commit next) :
    ∃ s', Commits env thread.view.call s s' := by
  refine ⟨(authWorkload env).answered s i thread.view .commit next
    (.ok { value := (), now := 0, fresh := fun _ => "", versions := versionOf s.shared })
    (s.shared.commit i), i, thread, next, { now := 0 }, hi, rfl, request, ?_, rfl⟩
  simp only [Workload.step, hi, Option.bind_some, request]
  rfl

/-- A reset is requested, and its token is used for a new password, up to the commit. -/
def resettingPassword : List (Turn AuthCall AuthOracle) :=
  .start (.requestPasswordReset "u@agency.gov") :: List.replicate 6 (answerOf 0) ++
    .start (.completePasswordReset "raw" "new") :: List.replicate 7 (answerOf 1)

/-- The reset that a call is about to complete. -/
def completing (thread : Thread AuthReply AuthExn AuthOutcome AuthView) :
    Option (String × String) :=
  match thread.view.call, thread.program with
  | .completePasswordReset raw password, .request .commit _ => some (raw, password)
  | _, _ => none

theorem completing_spec {thread : Thread AuthReply AuthExn AuthOutcome AuthView}
    {raw password : String} (h : completing thread = some (raw, password)) :
    thread.view.call = .completePasswordReset raw password ∧
      ∃ next, thread.program = .request .commit next := by
  unfold completing at h
  split at h
  · rename_i raw' password' next call program
    cases h
    exact ⟨call, next, program⟩
  · cases h

theorem capability_tokens_are_single_use_reset : ∃ s s' : AuthPool,
    (authSystem plainAuth).Reachable s ∧
    Commits plainAuth (.completePasswordReset "raw" "new") s s' ∧
    ¬ IsUsed s.shared .resets "id" ∧ IsUsed s'.shared .resets "id" := by
  have outcome : ((run (authWorkload plainAuth).step ⟨oneAccount, []⟩ resettingPassword).bind
      fun s => (s.threads[1]?).bind fun thread =>
        (show Option PasswordReset from (s.shared.cell ⟨.resets, "id"⟩).committed).map fun reset =>
          decide (completing thread = some ("raw", "new") ∧ reset.usedAt = none ∧
            reset.tokenHash = "#raw")) = some true := by decide +kernel
  obtain ⟨s, hs, outcome⟩ := Option.bind_eq_some_iff.1 outcome
  obtain ⟨thread, ht, outcome⟩ := Option.bind_eq_some_iff.1 outcome
  obtain ⟨reset, found, outcome⟩ := Option.map_eq_some_iff.1 outcome
  have committed : (s.shared.cell ⟨.resets, "id"⟩).committed = some reset := found
  obtain ⟨request, unused, token⟩ := of_decide_eq_true outcome
  obtain ⟨called, next, program⟩ := completing_spec request
  have reachable := reachable_oneAccount hs
  obtain ⟨s', commits⟩ : ∃ s', Commits plainAuth thread.view.call s s' :=
    exists_commits ht program
  rw [called] at commits
  refine ⟨s, s', reachable, commits, ?_, ?_⟩
  · rintro ⟨r, same, used⟩
    rw [committed] at same
    cases same
    exact absurd used (by simp [AuthTable.used, unused])
  · exact (capability_tokens_are_single_use reachable).completed "raw" "new" s' s' commits .refl
      "id" "id" reset reset committed token committed rfl

end SingleUse

end DataMover
