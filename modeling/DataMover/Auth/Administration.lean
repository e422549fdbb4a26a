import DataMover.Auth.Sessions
import DataMover.Pool
import DataMover.ReadCommitted

/-!
# Administrator actions on accounts

`_admin_user_mutation` as a program over the statements that it executes: it locks the row of the role
`administrator`, reads its actor again, and then toggles, approves or denies an account.  An actor that
was authorised stays an active administrator until its transaction ends, because every account is
written under the lock (`administrators_stay`).
-/

namespace DataMover

open ReadCommitted Program Transition

namespace Administration

/-! ## Tables -/

/-- The rows of `user_roles` of one user. -/
structure Membership where
  userId : String
  roleNames : List String
  deriving DecidableEq

inductive Table where
  | users
  | roles
  | memberships
  | sessions
  deriving DecidableEq

/-- A role is its name. -/
def Table.Row : Table → Type
  | users => User
  | roles => String
  | memberships => Membership
  | sessions => RefreshSession

def Table.key : {t : Table} → t.Row → String
  | users, (user : User) => user.id
  | roles, name => name
  | memberships, (membership : Membership) => membership.userId
  | sessions, (session : RefreshSession) => session.id

inductive AccountQuery where
  | any
  | id (id : String)
  | pending
  /-- Pending with a verified address. -/
  | approvable
  deriving DecidableEq

def AccountQuery.holds (user : User) : AccountQuery → Bool
  | any => true
  | id userId => decide (user.id = userId)
  | pending => decide (user.status = .pending)
  | approvable => decide (user.status = .pending ∧ user.emailVerifiedAt ≠ none)

/-- Roles are looked up by name, memberships and open sessions by their user. -/
def Table.Query : Table → Type
  | users => AccountQuery
  | roles => String
  | memberships => String
  | sessions => String

def Table.holds : {t : Table} → t.Query → t.Row → Bool
  | users, q, user => AccountQuery.holds user q
  | roles, (name : String), (role : String) => decide (role = name)
  | memberships, (userId : String), (membership : Membership) =>
    decide (membership.userId = userId)
  | sessions, (userId : String), (session : RefreshSession) =>
    decide (session.userId = userId ∧ session.revokedAt = none)

inductive AccountChange where
  /-- The columns of the toggle; the columns of a lockout are written when they change. -/
  | toggle (status : UserStatus) (version : Nat) (clearAttempts clearLock : Bool)
  | approve
  | deny

def AccountChange.apply (user : User) : AccountChange → User
  | toggle status version clearAttempts clearLock =>
    { user with
      status := status
      securityVersion := version
      failedLoginAttempts := if clearAttempts then 0 else user.failedLoginAttempts
      lockedUntil := if clearLock then none else user.lockedUntil }
  | approve => { user with status := .active }
  | deny => { user with status := .disabled, securityVersion := user.securityVersion + 1 }

/-- The assignment to a session is the time of its revocation; roles and memberships are never
updated. -/
def Table.Change : Table → Type
  | users => AccountChange
  | roles => Empty
  | memberships => Empty
  | sessions => Time

def Table.apply : {t : Table} → t.Change → t.Row → t.Row
  | users, change, user => AccountChange.apply user change
  | roles, change, _ => nomatch change
  | memberships, change, _ => nomatch change
  | sessions, (now : Time), (session : RefreshSession) =>
    ({ session with revokedAt := some now } : RefreshSession)

/-- The tables that the administrator actions read and write; nothing is inserted. -/
@[reducible] def schema : Schema where
  Tab := Table
  decTab := inferInstance
  Row := Table.Row
  Query := Table.Query
  decQuery
    | .users => inferInstanceAs (DecidableEq AccountQuery)
    | .roles => inferInstanceAs (DecidableEq String)
    | .memberships => inferInstanceAs (DecidableEq String)
    | .sessions => inferInstanceAs (DecidableEq String)
  Change := Table.Change
  key := Table.key
  holds := Table.holds
  apply := Table.apply
  clashes _ _ := false
  key_apply {t} change row := by
    cases t with
    | users => cases (show AccountChange from change) <;> rfl
    | roles => exact nomatch change
    | memberships => exact nomatch change
    | sessions => rfl

/-! ## The request -/

inductive AdminExn where
  | http (status : Nat) (detail : String)
  | other (typeName : String)
  deriving DecidableEq

/-- The answer to a statement, with the clock. -/
structure Answered (α : Type) where
  value : α
  now : Time

abbrev AdminStmt := Stmt schema

abbrev AdminReply (s : AdminStmt) := Answered s.Answer

abbrev AdminProgram := Program AdminReply AdminExn

/-- `administrator`. -/
def administrator : String := "administrator"

def execute (s : AdminStmt) : AdminProgram (AdminReply s) := Program.call s

/-- `lock_administrator_action`, with the refreshed actor. -/
def lockAdministratorAction (actorId : String) : AdminProgram (Bool × User) := do
  let role ← execute (.lock .roles administrator administrator)
  let refreshed ← execute (.select .users (.id actorId : AccountQuery))
  match (show List User from refreshed.value) with
  | [] => .throw (.other "InvalidRequestError")
  | actor :: _ =>
    if (show Option String from role.value).isSome ∧ actor.isActive then do
      let roles ← execute (.select .memberships actorId)
      return ((show List Membership from roles.value).any (administrator ∈ ·.roleNames), actor)
    else return (false, actor)

/-- The rows of `revoke_all_sessions`, each when it is still open. -/
def revokeEach (userId : String) (now : Time) : List RefreshSession → AdminProgram Unit
  | [] => return
  | session :: rest => do
    let _ ← execute (.update .sessions session.id userId now)
    revokeEach userId now rest

/-- `revoke_all_sessions`. -/
def revokeAllSessions (userId : String) (now : Time) : AdminProgram Unit := do
  let found ← execute (.select .sessions userId)
  revokeEach userId now found.value

/-- The ORM writes the account by primary key when the transaction commits. -/
def flushAccount (userId : String) (change : AccountChange) : AdminProgram Unit := do
  let written ← execute (.update .users userId (.any : AccountQuery) change)
  match (show Option User from written.value) with
  | some _ => return
  | none => .throw (.other "StaleDataError")

/-- The commit of the toggle. -/
def saveStatus (userId : String) (change : AccountChange) : AdminProgram Unit := do
  flushAccount userId change
  let _ ← execute .commit
  return

/-- `bool(user.password_hash)`. -/
def hasPassword (user : User) : Bool := user.passwordHash.any (· ≠ "")

/-- The branch `toggle`. -/
def toggle (localPassword : Bool) (actorId userId : String) (user : User) (now : Time) :
    AdminProgram Unit :=
  if userId = actorId then .throw (.http 400 "You cannot disable your own account")
  else if user.status = .pending then .throw (.http 400 "Use the registration approval action")
  else if user.status = .disabled ∧
      (user.emailVerifiedAt = none ∨ localPassword ∧ ¬ hasPassword user) then
    .throw (.http 400 "This account cannot be enabled until its government email is verified")
  else if user.status = .active then do
    revokeAllSessions userId now
    saveStatus userId (.toggle .disabled (user.securityVersion + 1) false false)
  else
    saveStatus userId (.toggle .active (user.securityVersion + 1)
      (user.failedLoginAttempts != 0) user.lockedUntil.isSome)

/-- `approve_self_registration`; its `ValueError` is answered with status 400. -/
def approveSelfRegistration (localPassword : Bool) (userId : String) (user : User) :
    AdminProgram Unit :=
  if user.status ≠ .pending then
    .throw (.http 400 "Only pending registrations can be approved.")
  else if user.emailVerifiedAt = none ∨ localPassword ∧ ¬ hasPassword user then
    .throw (.http 400 "The user must verify their government email before approval.")
  else do
    let activated ← execute (.update .users userId (.approvable : AccountQuery) .approve)
    match (show Option User from activated.value) with
    | none =>
      let _ ← execute .rollback
      .throw (.http 400 "This registration is no longer pending approval.")
    | some _ =>
      let _ ← execute .commit
      return

/-- `deny_self_registration`; its `ValueError` is answered with status 400. -/
def denySelfRegistration (userId : String) (user : User) : AdminProgram Unit :=
  if user.status ≠ .pending then
    .throw (.http 400 "Only pending registrations can be denied.")
  else do
    let denied ← execute (.update .users userId (.pending : AccountQuery) .deny)
    match (show Option User from denied.value) with
    | none =>
      let _ ← execute .rollback
      .throw (.http 400 "This registration is no longer pending approval.")
    | some _ =>
      revokeAllSessions userId denied.now
      let _ ← execute .commit
      return

inductive Action where
  | toggle
  | approve
  | deny
  deriving DecidableEq

/-- `db.get(User, user_id)`; the refreshed actor is not read again. -/
def getAccount (actor : User) (actorId userId : String) (now : Time) :
    AdminProgram (Option User × Time) :=
  if userId = actorId then return (some actor, now)
  else do
    let found ← execute (.select .users (.id userId : AccountQuery))
    return ((show List User from found.value).head?, found.now)

/-- `_admin_user_mutation`. -/
def adminUserMutation (localPassword : Bool) (action : Action) (actorId userId : String)
    (now : Time) : AdminProgram Unit := do
  let (authorized, actor) ← lockAdministratorAction actorId
  if ¬ authorized then
    let _ ← execute .rollback
    .throw (.http 403 "Administrator required")
  else
    let (user, now) ← getAccount actor actorId userId now
    match user with
    | none => .throw (.http 404 "User not found")
    | some user =>
      match action with
      | .toggle => toggle localPassword actorId userId user now
      | .approve => approveSelfRegistration localPassword userId user
      | .deny => denySelfRegistration userId user

/-- Closing the database session at the end of a request rolls back. -/
def closing (p : AdminProgram Unit) : AdminProgram Unit := do
  let outcome ← Program.attempt p
  let _ ← Program.attempt (execute .rollback)
  Program.lift outcome

/-! ## What a request relies on -/

/-- A request of an actor for an account. -/
structure AdminCall where
  action : Action
  actorId : String
  userId : String
  now : Time

/-- What is known of a request: whether it has locked the role, the actor that it has read under that
lock, and whether the actor was authorised. -/
structure AdminView where
  call : AdminCall
  locked : Bool := false
  actor : Option User := none
  authorized : Bool := false

namespace AdminView

variable (v : AdminView)

/-- The transaction is over. -/
def ended : AdminView := { call := v.call }

/-- What an answer says. -/
def note : (s : AdminStmt) → s.Answer → AdminView
  | .lock .roles name _, role =>
    { v with
      locked := v.locked ||
        decide (name = administrator) && (show Option String from role).isSome }
  | .select .users q, rows =>
    if (show AccountQuery from q) = .id v.call.actorId ∧ v.locked then
      { v with actor := (show List User from rows).head? }
    else v
  | .select .memberships q, rows =>
    { v with
      authorized := v.authorized || decide ((show String from q) = v.call.actorId) &&
        v.actor.any User.isActive &&
        (show List Membership from rows).any (administrator ∈ ·.roleNames) }
  | .commit, _ => v.ended
  | .rollback, _ => v.ended
  | _, _ => v

/-- What is known after an answer; a statement that raises ends the transaction. -/
def observe (s : AdminStmt) : Except AdminExn (AdminReply s) → AdminView
  | .ok reply => v.note s reply.value
  | .error _ => v.ended

/-- Only the role is locked, and only an authorised actor writes an account, never its own. -/
def Relies : AdminStmt → Prop
  | .select _ _ => True
  | .lock t _ _ => t = .roles
  | .update .users userId _ _ => v.authorized ∧ userId ≠ v.call.actorId
  | .update _ _ _ _ => True
  | .insert _ _ => False
  | .commit => True
  | .rollback => True

end AdminView

def protocol : Protocol AdminReply AdminExn AdminView where
  Allowed v s := v.Relies s
  observe v s answer := v.observe s answer

/-! ## The programs follow the protocol -/

section Conformance

variable {v : AdminView} {actorId userId : String} {localPassword : Bool}

/-- Nothing is said of the outcome. -/
abbrev Follows {α : Type} (v : AdminView) (p : AdminProgram α) : Prop :=
  Sat protocol (fun _ _ => True) v p

/-- The actor is authorised to write the account. -/
def Ready (actorId userId : String) (v : AdminView) : Prop :=
  v.authorized = true ∧ v.call.actorId = actorId ∧ userId ≠ actorId

theorem Ready.relies (h : Ready actorId userId v) {q : AccountQuery} {change : AccountChange} :
    v.Relies (.update .users userId q change) :=
  ⟨h.1, fun same => h.2.2 (same.trans h.2.1)⟩

theorem sat_revokeEach {now : Time} (sessions : List RefreshSession)
    (h : Ready actorId userId v) :
    Sat protocol (Unless (Ready actorId userId)) v (revokeEach userId now sessions) := by
  induction sessions generalizing v with
  | nil => exact h
  | cons session rest ih => exact Sat.unless_call trivial fun _ => ih h

theorem sat_revokeAllSessions {now : Time} (h : Ready actorId userId v) :
    Sat protocol (Unless (Ready actorId userId)) v (revokeAllSessions userId now) :=
  Sat.unless_call trivial fun reply => sat_revokeEach reply.value h

theorem follows_bind {α β : Type} {p : AdminProgram α} {f : α → AdminProgram β}
    {P : AdminView → Prop} (h : Sat protocol (Unless P) v p) (ok : ∀ t a, P t → Follows t (f a)) :
    Follows v (p >>= f) :=
  h.bind ok fun _ _ _ => trivial

theorem follows_execute {α : Type} {s : AdminStmt} {f : AdminReply s → AdminProgram α}
    (allowed : v.Relies s) (ok : ∀ reply, Follows (v.observe s (.ok reply)) (f reply)) :
    Follows v (execute s >>= f) :=
  Sat.call_bind allowed ok fun _ => trivial

theorem follows_commit : Follows v (do let _ ← execute .commit; return) :=
  follows_execute trivial fun _ => trivial

theorem follows_refuse {e : AdminExn} :
    Follows v (do let _ ← execute .rollback; (.throw e : AdminProgram Unit)) :=
  follows_execute trivial fun _ => trivial

theorem follows_saveStatus {change : AccountChange} (h : Ready actorId userId v) :
    Follows v (saveStatus userId change) := by
  refine Sat.bind (R := fun _ _ => True) ?_ (fun t _ _ => follows_commit) fun _ _ _ => trivial
  refine follows_execute h.relies fun written => ?_
  split
  · exact trivial
  · exact trivial

theorem follows_toggle {user : User} {now : Time} (authorized : v.authorized = true)
    (actor : v.call.actorId = actorId) :
    Follows v (toggle localPassword actorId userId user now) := by
  unfold toggle
  split_ifs with own pending unverified active
  · exact trivial
  · exact trivial
  · exact trivial
  · exact follows_bind (sat_revokeAllSessions ⟨authorized, actor, own⟩) fun t _ ready =>
      follows_saveStatus ready
  · exact follows_saveStatus ⟨authorized, actor, own⟩

theorem follows_approve {user : User} (h : user.status = .pending → Ready actorId userId v) :
    Follows v (approveSelfRegistration localPassword userId user) := by
  unfold approveSelfRegistration
  split_ifs with pending unverified
  · exact trivial
  · exact trivial
  · refine follows_execute (h (not_not.1 pending)).relies fun activated => ?_
    split
    · exact follows_refuse
    · exact follows_commit

theorem follows_deny {user : User} (h : user.status = .pending → Ready actorId userId v) :
    Follows v (denySelfRegistration userId user) := by
  unfold denySelfRegistration
  split_ifs with pending
  · exact trivial
  · have ready := h (not_not.1 pending)
    refine follows_execute ready.relies fun denied => ?_
    split
    · exact follows_refuse
    · have swept : Ready actorId userId (v.observe _ (.ok denied)) := ready
      exact follows_bind (sat_revokeAllSessions swept) fun t _ _ => follows_commit

/-- What `lock_administrator_action` has found out. -/
def Authorized (actorId : String) (v : AdminView) : Except AdminExn (Bool × User) → Prop
  | .ok (true, actor) => v.authorized = true ∧ v.call.actorId = actorId ∧ actor.isActive = true
  | _ => True

theorem call_select (q : AccountQuery) (reply : AdminReply (.select .users q)) :
    (v.observe (.select .users q) (.ok reply)).call = v.call := by
  simp only [AdminView.observe, AdminView.note]
  split <;> rfl

theorem authorized_select (q : AccountQuery) (reply : AdminReply (.select .users q)) :
    (v.observe (.select .users q) (.ok reply)).authorized = v.authorized := by
  simp only [AdminView.observe, AdminView.note]
  split <;> rfl

theorem actor_select (reply : AdminReply (.select .users (.id actorId : AccountQuery)))
    (actor : v.call.actorId = actorId) (locked : v.locked = true) :
    (v.observe (.select .users (.id actorId : AccountQuery)) (.ok reply)).actor =
      (show List User from reply.value).head? := by
  subst actor
  simp only [AdminView.observe, AdminView.note, locked, and_self, if_true]

theorem authorized_memberships (reply : AdminReply (.select .memberships actorId)) {actor : User}
    (called : v.call.actorId = actorId) (read : v.actor = some actor)
    (active : actor.isActive = true)
    (member : (show List Membership from reply.value).any (administrator ∈ ·.roleNames) = true) :
    (v.observe (.select .memberships actorId) (.ok reply)).authorized = true := by
  subst called
  simp only [AdminView.observe, AdminView.note, read, Option.any_some, active, decide_true,
    Bool.true_and, Bool.or_eq_true]
  exact .inr member

theorem sat_lockAdministratorAction (h : v.call.actorId = actorId) :
    Sat protocol (Authorized actorId) v (lockAdministratorAction actorId) := by
  unfold lockAdministratorAction
  refine Sat.call_bind rfl (fun role => ?_) fun _ => trivial
  refine Sat.call_bind trivial (fun refreshed => ?_) fun _ => trivial
  split
  · exact trivial
  · rename_i actor others found
    split_ifs with active
    · refine Sat.call_bind trivial (fun roles => ?_) fun _ => trivial
      have locked : (v.observe (.lock .roles administrator administrator) (.ok role)).locked =
          true := by
        simp only [AdminView.observe, AdminView.note, decide_true, Bool.true_and, Bool.or_eq_true]
        exact .inr active.1
      have same : (v.observe (.lock .roles administrator administrator) (.ok role)).call.actorId =
          actorId := h
      have called := (congrArg AdminCall.actorId (call_select (.id actorId) refreshed)).trans same
      have read := (actor_select refreshed same locked).trans (congrArg List.head? found)
      cases member : (show List Membership from roles.value).any (administrator ∈ ·.roleNames) with
      | false => exact trivial
      | true =>
        exact ⟨authorized_memberships roles called read active.2 member, called, active.2⟩
    · exact trivial

/-- What is known of the account of the request. -/
def Found (actorId userId : String) (v : AdminView) : Except AdminExn (Option User × Time) → Prop
  | .ok (user, _) => v.authorized = true ∧ v.call.actorId = actorId ∧
    ∀ u, user = some u → u.status = .pending → Ready actorId userId v
  | .error _ => True

theorem sat_getAccount {actor : User} {now : Time} (authorized : v.authorized = true)
    (called : v.call.actorId = actorId) (active : actor.isActive = true) :
    Sat protocol (Found actorId userId) v (getAccount actor actorId userId now) := by
  unfold getAccount
  split_ifs with own
  · refine ⟨authorized, called, ?_⟩
    rintro u ⟨⟩ pending
    rw [User.isActive, pending] at active
    exact absurd active (by decide)
  · refine Sat.call_bind trivial (fun found => ?_) fun _ => trivial
    have authorized' := (authorized_select (.id userId) found).trans authorized
    have called' := (congrArg AdminCall.actorId (call_select (.id userId) found)).trans called
    exact ⟨authorized', called', fun _ _ _ => ⟨authorized', called', own⟩⟩

theorem follows_adminUserMutation {action : Action} {now : Time}
    (h : v.call.actorId = actorId) :
    Follows v (adminUserMutation localPassword action actorId userId now) := by
  refine (sat_lockAdministratorAction h).bind ?_ fun _ _ _ => trivial
  rintro t ⟨authorized, actor⟩ known
  cases authorized with
  | false => exact follows_refuse
  | true =>
    obtain ⟨authorized, called, active⟩ := known
    refine Sat.bind (sat_getAccount authorized called active) ?_ fun _ _ _ => trivial
    rintro t ⟨_ | user, later⟩ ⟨authorized, called, ready⟩
    · exact trivial
    · cases action with
      | toggle => exact follows_toggle authorized called
      | approve => exact follows_approve (ready user rfl)
      | deny => exact follows_deny (ready user rfl)

theorem follows_closing {p : AdminProgram Unit} (h : Follows v p) : Follows v (closing p) := by
  unfold closing
  refine Sat.bind (R := fun _ _ => True) (sat_attempt.2 h) (fun t outcome _ => ?_)
    fun _ _ _ => trivial
  refine Sat.bind (R := fun _ _ => True) ?_ (fun t _ _ => sat_lift.2 trivial) fun _ _ _ => trivial
  exact sat_attempt.2 (sat_call.2 ⟨trivial, fun _ => trivial⟩)

end Conformance

/-- What the database decides: whether a statement raises, and the clock. -/
structure AdminOracle where
  raises : Bool := false
  now : Time

/-- The answer to a statement of the thread `i`; a statement that raises ends its transaction. -/
def serve (o : AdminOracle) (i : Nat) (db : Db schema) (s : AdminStmt) :
    Option (Except AdminExn (AdminReply s) × Db schema) :=
  if o.raises then some (.error (.other "DBAPIError"), db.rollback i)
  else (db.exec i s).map fun a => (.ok ⟨a.1, o.now⟩, a.2)

/-- The user is active and holds the role `administrator`, as committed. -/
def Administers (db : Db schema) (userId : String) : Prop :=
  (∃ user : User, (db.cell ⟨.users, userId⟩).committed = some user ∧ user.isActive = true) ∧
    ∃ membership : Membership, (db.cell ⟨.memberships, userId⟩).committed = some membership ∧
      administrator ∈ membership.roleNames

/-- No transaction is open, and there is an active administrator. -/
def Staffed (db : Db schema) : Prop :=
  (∀ a, (db.cell a).lock = none) ∧ ∃ userId, Administers db userId

/-- Any number of concurrent requests. -/
def workload (localPassword : Bool) :
    Workload AdminReply AdminExn Unit AdminView (Db schema) AdminCall AdminOracle where
  protocol := protocol
  program call :=
    closing (adminUserMutation localPassword call.action call.actorId call.userId call.now)
  view call := { call }
  serve := serve

theorem workload_follows (localPassword : Bool) : (workload localPassword).Follows := fun call =>
  follows_closing (follows_adminUserMutation (rfl : call.actorId = call.actorId))

/-- All interleavings of the requests. -/
def system (localPassword : Bool) := (workload localPassword).system Staffed

/-! ## The invariant -/

/-- What is true of a thread with its view. -/
structure Knows (db : Db schema) (i : Nat) (v : AdminView) : Prop where
  locked : v.locked = true → (db.cell ⟨.roles, administrator⟩).held i ≠ none
  actor : ∀ user, v.actor = some user → v.locked = true ∧
    (db.cell ⟨.users, v.call.actorId⟩).committed = some user
  authorized : v.authorized = true → v.locked = true ∧ Administers db v.call.actorId
  writes : ∀ userId, (db.cell ⟨.users, userId⟩).held i ≠ none →
    v.authorized = true ∧ userId ≠ v.call.actorId

structure Inv (db : Db schema) (views : List AdminView) : Prop where
  knows : ∀ i v, views[i]? = some v → Knows db i v
  absent : ∀ i, views[i]? = none → ∀ userId, (db.cell ⟨.users, userId⟩).held i = none
  memberships : ∀ i userId, (db.cell ⟨.memberships, userId⟩).held i = none
  staffed : ∃ userId, Administers db userId

section Invariant

variable {db db' : Db schema} {views : List AdminView} {i j : Nat} {v w : AdminView}

theorem Administers.of_committed {userId : String} (h : Administers db userId)
    (users : (db'.cell ⟨.users, userId⟩).committed = (db.cell ⟨.users, userId⟩).committed)
    (memberships : (db'.cell ⟨.memberships, userId⟩).committed =
      (db.cell ⟨.memberships, userId⟩).committed) : Administers db' userId := by
  unfold Administers
  rw [users, memberships]
  exact h

theorem knows_ended (h : ∀ userId, (db.cell ⟨.users, userId⟩).held i = none) :
    Knows db i v.ended where
  locked := nofun
  actor := nofun
  authorized := nofun
  writes userId held := absurd (h userId) held

/-- Only one thread has locked the role. -/
theorem Knows.exclusive (hi : Knows db i v) (hj : Knows db j w) (vi : v.locked = true)
    (wj : w.locked = true) : i = j := by
  obtain ⟨a, ha⟩ := Option.ne_none_iff_exists'.1 (hi.locked vi)
  obtain ⟨b, hb⟩ := Option.ne_none_iff_exists'.1 (hj.locked wj)
  rw [Cell.held_eq_some] at ha hb
  rw [ha] at hb
  cases hb
  rfl

/-- A step that keeps the lock on the role, and the accounts while the role is locked. -/
theorem Knows.frame (h : Knows db i v)
    (role : (db.cell ⟨.roles, administrator⟩).held i ≠ none →
      (db'.cell ⟨.roles, administrator⟩).held i ≠ none)
    (writes : ∀ userId, (db'.cell ⟨.users, userId⟩).held i ≠ none →
      v.authorized = true ∧ userId ≠ v.call.actorId)
    (users : v.locked = true → ∀ userId,
      (db'.cell ⟨.users, userId⟩).committed = (db.cell ⟨.users, userId⟩).committed)
    (memberships : ∀ userId, (db'.cell ⟨.memberships, userId⟩).committed =
      (db.cell ⟨.memberships, userId⟩).committed) : Knows db' i v where
  locked l := role (h.locked l)
  actor user read := by
    obtain ⟨l, same⟩ := h.actor user read
    exact ⟨l, (users l _).trans same⟩
  authorized a := by
    obtain ⟨l, administers⟩ := h.authorized a
    exact ⟨l, administers.of_committed (users l _) (memberships _)⟩
  writes := writes

/-- An actor that is read under the lock is read as it is committed. -/
theorem Knows.read_actor (h : Knows db i v) {user : User}
    (found : user ∈ db.rows i .users (.id v.call.actorId : AccountQuery)) :
    (db.cell ⟨.users, v.call.actorId⟩).committed = some user := by
  obtain ⟨seen, same⟩ := Db.mem_rows.1 found
  have key : schema.key (t := Table.users) user = v.call.actorId := of_decide_eq_true same
  rw [key] at seen
  have notHeld : (db.cell ⟨.users, v.call.actorId⟩).held i = none := by
    by_contra held
    exact (h.writes _ held).2 rfl
  rw [← Cell.visible_of_not_held notHeld]
  exact seen

theorem read_membership (clear : ∀ userId, (db.cell ⟨.memberships, userId⟩).held i = none)
    {userId : String} {membership : Membership}
    (found : membership ∈ db.rows i .memberships userId) :
    (db.cell ⟨.memberships, userId⟩).committed = some membership := by
  obtain ⟨seen, same⟩ := Db.mem_rows.1 found
  obtain rfl : membership.userId = userId := of_decide_eq_true same
  rw [← Cell.visible_of_not_held (clear _)]
  exact seen

/-- What a thread learns from a `select`. -/
theorem Knows.select (h : Knows db i v)
    (clear : ∀ userId, (db.cell ⟨.memberships, userId⟩).held i = none) (t : Table) (q : t.Query) :
    Knows db i (v.note (.select t q) (db.rows i t q)) := by
  cases t with
  | users =>
    simp only [AdminView.note]
    split_ifs with reads
    · refine ⟨h.locked, fun user first => ⟨reads.2, ?_⟩, h.authorized, h.writes⟩
      obtain rfl : q = AccountQuery.id v.call.actorId := reads.1
      exact h.read_actor (List.mem_of_mem_head? first)
    · exact h
  | roles => exact h
  | memberships =>
    refine ⟨h.locked, h.actor, fun authorized => ?_, fun userId held => ?_⟩
    · simp only [AdminView.note, Bool.or_eq_true, Bool.and_eq_true, decide_eq_true_eq,
        Option.any_eq_true] at authorized
      rcases authorized with before | ⟨⟨own, user, read, active⟩, member⟩
      · exact h.authorized before
      · obtain ⟨locked, committed⟩ := h.actor user read
        obtain ⟨membership, found, role⟩ := List.any_eq_true.1 member
        subst own
        exact ⟨locked, ⟨user, committed, active⟩, membership, read_membership clear found,
          of_decide_eq_true role⟩
    · obtain ⟨authorized, other⟩ := h.writes userId held
      exact ⟨Bool.or_eq_true_iff.2 (.inl authorized), other⟩
  | sessions => exact h

/-- A statement within a transaction keeps what is true of its thread. -/
theorem Knows.within (h : Knows db i v) {s : AdminStmt} {answer : s.Answer}
    (he : db.exec i s = some (answer, db')) (commit : s ≠ .commit) (rollback : s ≠ .rollback)
    (account : ∀ userId q change, s = .update .users userId q change →
      v.authorized = true ∧ userId ≠ v.call.actorId)
    (lock : ∀ userId q, s ≠ .lock .users userId q) (insert : ∀ t row, s ≠ .insert t row) :
    Knows db' i v := by
  refine h.frame (exec_keeps_held he commit rollback) (fun userId held => ?_)
    (fun _ _ => exec_committed he commit _) fun _ => exec_committed he commit _
  by_cases own : ∃ q change, s = .update .users userId q change
  · obtain ⟨q, change, same⟩ := own
    exact account userId q change same
  · simp only [not_exists] at own
    rcases exec_held_of_ne he (a := ⟨.users, userId⟩) (lock userId) own
      (fun row _ => insert .users row) with none | same
    · exact absurd none held
    · exact h.writes userId (same ▸ held)

/-- What a thread learns from the answer to its statement. -/
theorem Knows.note (h : Knows db i v)
    (clear : ∀ userId, (db.cell ⟨.memberships, userId⟩).held i = none) {s : AdminStmt}
    {answer : s.Answer} (allowed : v.Relies s) (he : db.exec i s = some (answer, db')) :
    Knows db' i (v.note s answer) := by
  cases s with
  | select t q =>
    cases he
    exact h.select clear t q
  | lock t k q =>
    obtain rfl : t = .roles := allowed
    have kept : Knows db' i v := h.within he nofun nofun nofun nofun nofun
    refine ⟨fun locked => ?_, fun user read => ?_, fun authorized => ?_, kept.writes⟩
    · simp only [AdminView.note, Bool.or_eq_true, Bool.and_eq_true, decide_eq_true_eq] at locked
      rcases locked with before | ⟨rfl, found⟩
      · exact kept.locked before
      · exact exec_lock_held he found
    · obtain ⟨locked, committed⟩ := kept.actor user read
      exact ⟨Bool.or_eq_true_iff.2 (.inl locked), committed⟩
    · obtain ⟨locked, administers⟩ := kept.authorized authorized
      exact ⟨Bool.or_eq_true_iff.2 (.inl locked), administers⟩
  | update t k q change =>
    cases t with
    | users =>
      refine h.within he nofun nofun ?_ nofun nofun
      rintro userId q' change' ⟨⟩
      exact allowed
    | roles => exact nomatch change
    | memberships => exact nomatch change
    | sessions => exact h.within he nofun nofun nofun nofun nofun
  | insert t row => exact absurd allowed id
  | commit =>
    cases he
    exact knows_ended fun userId => Cell.held_commit
  | rollback =>
    cases he
    exact knows_ended fun userId => Cell.held_rollback

section Served

variable {o : AdminOracle} {s : AdminStmt} {r : Except AdminExn (AdminReply s)}

/-- An answer is an exception after a rollback, or the answer of the database. -/
theorem serve_cases (h : serve o i db s = some (r, db')) :
    (∃ e, r = .error e ∧ db' = db.rollback i) ∨
    ∃ answer, r = .ok ⟨answer, o.now⟩ ∧ db.exec i s = some (answer, db') := by
  unfold serve at h
  split_ifs at h with raises
  · cases h
    exact .inl ⟨_, rfl, rfl⟩
  · obtain ⟨⟨answer, db''⟩, he, same⟩ := Option.map_eq_some_iff.1 h
    cases same
    exact .inr ⟨answer, rfl, he⟩

theorem serve_cell (h : serve o i db s = some (r, db')) (a : Addr schema) :
    CellStep i (db.cell a) (db'.cell a) := by
  rcases serve_cases h with ⟨e, -, rfl⟩ | ⟨answer, -, he⟩
  · exact .rollback
  · exact exec_cell he a

/-- A row changes when the thread that has locked it commits. -/
theorem serve_changed (h : serve o i db s = some (r, db')) {a : Addr schema}
    (changed : (db'.cell a).committed ≠ (db.cell a).committed) : (db.cell a).held i ≠ none := by
  rcases serve_cases h with ⟨e, -, rfl⟩ | ⟨answer, -, he⟩
  · exact absurd Cell.committed_rollback changed
  · intro notHeld
    by_cases commit : s = .commit
    · subst commit
      cases he
      rw [Db.cell_commit, Cell.committed_commit, Cell.visible_of_not_held notHeld] at changed
      exact changed rfl
    · exact changed (exec_committed he commit a)

variable (inv : Inv db views) (hi : views[i]? = some v)

include inv

theorem Inv.memberships_same (h : serve o i db s = some (r, db')) (userId : String) :
    (db'.cell ⟨.memberships, userId⟩).committed = (db.cell ⟨.memberships, userId⟩).committed := by
  by_contra changed
  exact serve_changed h changed (inv.memberships i userId)

include hi

/-- Only an authorised actor changes an account, never its own. -/
theorem Inv.changed_account (h : serve o i db s = some (r, db')) {userId : String}
    (changed : (db'.cell ⟨.users, userId⟩).committed ≠ (db.cell ⟨.users, userId⟩).committed) :
    v.authorized = true ∧ userId ≠ v.call.actorId :=
  (inv.knows i v hi).writes userId (serve_changed h changed)

/-- The actor of a change stays an administrator. -/
theorem Inv.administers (h : serve o i db s = some (r, db')) (authorized : v.authorized = true) :
    Administers db v.call.actorId ∧ Administers db' v.call.actorId := by
  have administers := ((inv.knows i v hi).authorized authorized).2
  refine ⟨administers, administers.of_committed ?_ (inv.memberships_same h _)⟩
  by_contra changed
  exact (inv.changed_account hi h changed).2 rfl

theorem Inv.staffed_after (h : serve o i db s = some (r, db')) : ∃ userId, Administers db' userId := by
  by_cases authorized : v.authorized = true
  · exact ⟨_, (inv.administers hi h authorized).2⟩
  · obtain ⟨userId, administers⟩ := inv.staffed
    refine ⟨userId, administers.of_committed ?_ (inv.memberships_same h _)⟩
    by_contra changed
    exact authorized (inv.changed_account hi h changed).1

theorem Inv.knows_other (h : serve o i db s = some (r, db')) (other : j ≠ i)
    (hj : views[j]? = some w) : Knows db' j w := by
  have kept : ∀ a, (db'.cell a).held j = (db.cell a).held j := fun a =>
    (serve_cell h a).held_of_ne other
  refine (inv.knows j w hj).frame ?_ ?_ ?_ (inv.memberships_same h)
  · rw [kept]
    exact id
  · intro userId
    rw [kept]
    exact (inv.knows j w hj).writes userId
  · intro locked userId
    by_contra changed
    obtain ⟨authorized, -⟩ := inv.changed_account hi h changed
    have own := ((inv.knows i v hi).authorized authorized).1
    exact other ((inv.knows j w hj).exclusive (inv.knows i v hi) locked own)

/-- The invariant is kept by an answer. -/
theorem Inv.serve (allowed : v.Relies s) (h : serve o i db s = some (r, db')) :
    Inv db' (views.set i (v.observe s r)) where
  knows j w hj := by
    rcases Workload.getElem?_set_cases hj with ⟨rfl, rfl⟩ | ⟨other, hj⟩
    · rcases serve_cases h with ⟨e, rfl, rfl⟩ | ⟨answer, rfl, he⟩
      · exact knows_ended fun userId => Cell.held_rollback
      · exact (inv.knows j v hi).note (inv.memberships j) allowed he
    · exact inv.knows_other hi h other hj
  absent j hj userId := by
    have other : j ≠ i := by
      rintro rfl
      rw [Workload.getElem?_set_self _ hi] at hj
      cases hj
    rw [List.getElem?_set_ne other.symm] at hj
    rw [(serve_cell h _).held_of_ne other]
    exact inv.absent j hj userId
  memberships j userId := by
    by_cases own : j = i
    · subst own
      rcases serve_cases h with ⟨e, -, rfl⟩ | ⟨answer, -, he⟩
      · exact Cell.held_rollback
      · have kept := exec_held_of_ne he (a := ⟨.memberships, userId⟩) ?_ ?_ ?_
        · exact kept.elim id fun same => same.trans (inv.memberships j userId)
        · rintro q rfl
          cases allowed
        · exact fun _ change => nomatch change
        · rintro row - rfl
          exact allowed
    · rw [(serve_cell h _).held_of_ne own]
      exact inv.memberships j userId
  staffed := inv.staffed_after hi h

end Served

theorem inv_start (h : Staffed db) : Inv db [] where
  knows := nofun
  absent i _ userId := by simp [Cell.held, h.1]
  memberships i userId := by simp [Cell.held, h.1]
  staffed := h.2

theorem Inv.call (inv : Inv db views) (call : AdminCall) :
    Inv db (views ++ [({ call := call } : AdminView)]) where
  knows i v hi := by
    by_cases old : views[i]? = some v
    · exact inv.knows i v old
    · rw [List.getElem?_append] at hi
      split_ifs at hi with bound
      · exact absurd hi old
      · rw [List.getElem?_singleton] at hi
        split_ifs at hi
        cases hi
        exact knows_ended (v := { call := call }) (inv.absent i (List.getElem?_eq_none (by omega)))
  absent i hi userId := by
    refine inv.absent i ?_ userId
    rw [List.getElem?_eq_none_iff] at hi ⊢
    rw [List.length_append] at hi
    omega
  memberships := inv.memberships
  staffed := inv.staffed

variable {localPassword : Bool}

theorem reachable_inv {s : Pool AdminReply AdminExn Unit AdminView (Db schema)}
    (h : (system localPassword).Reachable s) : Inv s.shared s.views := by
  refine Workload.invariant (workload_follows localPassword) (I := Inv) ?_ ?_ ?_ h
  · exact fun db staffed => inv_start staffed
  · exact fun db views call inv => inv.call call
  · intro db views i o v s r db' inv hi allowed served
    exact inv.serve hi allowed served

end Invariant

/-! ## Administrators -/

/-- An active administrator remains, and an account is changed only by a request whose actor is an
active administrator before and after the change. -/
theorem administrators_stay (localPassword : Bool)
    {s : Pool AdminReply AdminExn Unit AdminView (Db schema)}
    (h : (system localPassword).Reachable s) :
    (∃ userId, Administers s.shared userId) ∧
    ∀ turn s' userId, (workload localPassword).step s turn = some s' →
      (s'.shared.cell ⟨.users, userId⟩).committed ≠ (s.shared.cell ⟨.users, userId⟩).committed →
      ∃ i o view, turn = .answer i o ∧ s.views[i]? = some view ∧
        Administers s.shared view.call.actorId ∧ Administers s'.shared view.call.actorId := by
  have inv := reachable_inv h
  refine ⟨inv.staffed, fun turn s' userId step changed => ?_⟩
  rcases Workload.step_cases step with
    ⟨call, -, rfl⟩ | ⟨i, o, thread, c, next, r, db', rfl, hi, hp, served, rfl⟩
  · exact absurd rfl changed
  · have view := Workload.getElem?_views hi
    obtain ⟨authorized, -⟩ := inv.changed_account view served changed
    exact ⟨i, o, thread.view, rfl, view, inv.administers view served authorized⟩

/-- Two administrators. -/
def offices : Db schema := Db.load [
  ⟨.roles, administrator⟩,
  ⟨.users, ({ id := "a", email := "a@agency.gov", status := .active } : User)⟩,
  ⟨.users, ({ id := "b", email := "b@agency.gov", status := .active } : User)⟩,
  ⟨.memberships, (⟨"a", [administrator]⟩ : Membership)⟩,
  ⟨.memberships, (⟨"b", [administrator]⟩ : Membership)⟩]

theorem offices_staffed : Staffed offices :=
  ⟨Db.lock_load _, "a", ⟨_, rfl, rfl⟩, _, rfl, List.mem_singleton.2 rfl⟩

/-- The administrators disable each other at the same moment. -/
def mutualDisabling : List (Turn AdminCall AdminOracle) :=
  [.start ⟨.toggle, "a", "b", 0⟩, .start ⟨.toggle, "b", "a", 0⟩] ++
    List.replicate 7 (.answer 0 { now := 0 }) ++ List.replicate 3 (.answer 1 { now := 0 })

theorem administrators_stay_mutual : ∃ s, (system true).Reachable s ∧
    ["a", "b"].map (fun userId => ((s.shared.cell ⟨.users, userId⟩).committed.map User.status)) =
      [some .active, some .disabled] ∧ ∃ userId, Administers s.shared userId := by
  have outcome : (run (workload true).step ⟨offices, []⟩ mutualDisabling).map (fun s =>
      ["a", "b"].map fun userId => ((s.shared.cell ⟨.users, userId⟩).committed.map User.status)) =
      some [some .active, some .disabled] := by decide +kernel
  obtain ⟨s, hs, statuses⟩ := Option.map_eq_some_iff.1 outcome
  have initial : (system true).Reachable ⟨offices, []⟩ := .init ⟨offices_staffed, rfl⟩
  have reachable := initial.steps (steps_of_run hs)
  exact ⟨s, reachable, statuses, (administrators_stay true reachable).1⟩

end Administration

end DataMover
