import DataMover.Auth.Tables
import DataMover.Pool

/-!
# The authentication flows

Signing in, refreshing, resolving the session of a request and changing credentials, as programs over
the statements that they execute.  Objects that the ORM has changed are written by primary key when the
transaction commits; objects that it has loaded are not read again, and are as they were then.  Local
computation takes no time: what a flow reads from the clock is the time of its last answer.
-/

namespace DataMover

open ReadCommitted

/-! ## Statements -/

/-- The answer to a statement, with the clock and the random strings that are drawn next.  The flows do
not see `versions`, the committed security versions of the users at that time. -/
structure Stamped (α : Type) where
  value : α
  now : Time
  fresh : Nat → String
  versions : String → Nat

abbrev AuthStmt := Stmt authSchema

abbrev AuthReply (s : AuthStmt) := Stamped s.Answer

abbrev AuthProgram := Program AuthReply AuthExn

/-- The functions of other modules and packages, under the settings of the application. -/
structure AuthEnv where
  settings : SessionSettings
  /-- `authentication_mode == "local_password"`. -/
  localPassword : Bool
  normalizeEmail : String → Except AuthExn String
  verify : String → Option String → Bool
  hash : String → String
  needsRehash : String → Bool
  validatePassword : String → String → Except AuthExn String

namespace Flow

def execute (s : AuthStmt) : AuthProgram (Stamped s.Answer) := Program.call s

def raise {α : Type} (e : AuthExn) : AuthProgram α := .throw e

/-- `SELECT`. -/
def select (t : AuthTable) (q : t.Query) : AuthProgram (Stamped (List t.Row)) :=
  execute (.select t q)

/-- `UPDATE` of one row. -/
def update (t : AuthTable) (id : String) (q : t.Query) (change : t.Change) :
    AuthProgram (Stamped (Option t.Row)) :=
  execute (.update t id q change)

def lock (t : AuthTable) (id : String) (q : t.Query) : AuthProgram (Stamped (Option t.Row)) :=
  execute (.lock t id q)

/-- `INSERT`; false when a unique column is taken. -/
def insert (t : AuthTable) (row : t.Row) : AuthProgram (Stamped Bool) :=
  execute (.insert t row)

def commit : AuthProgram (Stamped Unit) := execute .commit

def rollback : AuthProgram (Stamped Unit) := execute .rollback

/-- Lock the first row that still satisfies the where clause. -/
def lockFirst (t : AuthTable) (q : t.Query) : List t.Row → Stamped Unit →
    AuthProgram (Stamped (Option t.Row))
  | [], last => return { last with value := none }
  | row :: rows, _ => do
    let locked ← lock t (AuthTable.key row) q
    match locked.value with
    | some _ => return locked
    | none => lockFirst t q rows { locked with value := () }

/-- `SELECT … FOR UPDATE` of one row. -/
def forUpdate (t : AuthTable) (q : t.Query) : AuthProgram (Stamped (Option t.Row)) := do
  let found ← select t q
  lockFirst t q found.value { found with value := () }

/-- Update the rows that were found, each when it still satisfies the where clause. -/
def updateEach (t : AuthTable) (q : t.Query) (change : t.Change) : List t.Row →
    AuthProgram (List t.Row)
  | [] => return []
  | row :: rows => do
    let updated ← update t (AuthTable.key row) q change
    let others ← updateEach t q change rows
    return updated.value.toList ++ others

/-- `UPDATE` of all rows that satisfy the where clause. -/
def updateAll (t : AuthTable) (q : t.Query) (change : t.Change) : AuthProgram (List t.Row) := do
  let found ← select t q
  updateEach t q change found.value

/-- The ORM writes an object by primary key. -/
def flush (t : AuthTable) (id : String) (any : t.Query) (change : t.Change) :
    AuthProgram Unit := do
  let written ← update t id any change
  match written.value with
  | some _ => return
  | none => raise (.other "StaleDataError")

/-- The ORM inserts an object. -/
def add (t : AuthTable) (row : t.Row) : AuthProgram Unit := do
  let added ← insert t row
  if added.value then return else raise (.other "IntegrityError")

/-- Closing the database session at the end of a request rolls back. -/
def closing {α : Type} (p : AuthProgram α) : AuthProgram α := do
  let outcome ← Program.attempt p
  let _ ← Program.attempt rollback
  Program.lift outcome

/-- A session row as it was read, with the committed security version of its user at that time. -/
structure Loaded where
  row : SessionRow
  asOf : Nat

/-- The objects that the ORM has loaded. -/
structure Known where
  users : List User := []
  sessions : List Loaded := []

/-- `db.get(User, id)`. -/
def getUser (known : Known) (now : Time) (id : String) :
    AuthProgram (Option User × Known × Time) :=
  match known.users.find? fun user => user.id = id with
  | some user => return (some user, known, now)
  | none => do
    let found ← select .users (.id id)
    match found.value with
    | user :: _ => return (some user, { known with users := user :: known.users }, found.now)
    | [] => return (none, known, found.now)

/-- `db.get(RefreshSession, id)`. -/
def getSession (known : Known) (now : Time) (id : String) :
    AuthProgram (Option Loaded × Known × Time) :=
  match known.sessions.find? fun session => session.row.id = id with
  | some session => return (some session, known, now)
  | none => do
    let found ← select .sessions (.id id)
    match found.value with
    | row :: _ =>
      let session : Loaded := ⟨row, found.versions (SessionRow.toRefreshSession row).userId⟩
      return (some session, { known with sessions := session :: known.sessions }, found.now)
    | [] => return (none, known, found.now)

/-! ## Signing in -/

def genericAuthFailure : String := "Unable to sign in with those credentials."

/-- `_LOGIN_LOCKOUT_DURATION`. -/
def loginLockoutDuration : Time := seconds 900

variable (env : AuthEnv)

/-- `authenticate_user` once it has locked the row of the user. -/
def authenticateLocked (password : String) (now : Time) (user : User) : AuthProgram User :=
  let valid := env.verify password user.passwordHash
  -- a lockout that is over is reset on the object, which is written at the commit
  let elapsed := user.lockedUntil.isSome
  let reset : AuthProgram Unit :=
    if elapsed then flush .users user.id .any (.loginState (some 0) none) else return
  let lockout := some (now + loginLockoutDuration)
  let guard : UserQuery := .credentials user.passwordHash user.securityVersion
  if user.lockedUntil.any fun until_ => decide (now < until_) then do
    let _ ← commit
    raise (.accountLocked genericAuthFailure)
  else if ¬ elapsed ∧ loginLockoutAttempts ≤ user.failedLoginAttempts then do
    flush .users user.id .any (.loginState none lockout)
    let _ ← commit
    raise (.accountLocked genericAuthFailure)
  else if valid ∧ user.status = .pending ∧ user.emailVerifiedAt.isSome then do
    reset
    let _ ← commit
    raise (.authentication genericAuthFailure)
  else if ¬ valid ∨ ¬ user.isActive ∨ user.emailVerifiedAt = none then
    if user.isActive ∧ user.emailVerifiedAt.isSome then do
      let counted ← update .users user.id guard .countFailure
      match (show Option User from counted.value) with
      | none =>
        reset
        let _ ← commit
        raise (.accountLocked genericAuthFailure)
      | some failed =>
        if loginLockoutAttempts ≤ failed.failedLoginAttempts then
          flush .users user.id .any (.loginState (if elapsed then some 0 else none) lockout)
          let _ ← commit
          raise (.accountLocked genericAuthFailure)
        else
          reset
          let _ ← commit
          raise (.authentication genericAuthFailure)
    else do
      reset
      let _ ← commit
      raise (.authentication genericAuthFailure)
  else do
    let cleared ← update .users user.id guard .clearFailures
    match cleared.value with
    | none =>
      reset
      let _ ← commit
      raise (.accountLocked genericAuthFailure)
    | some _ =>
      let refreshed ← select .users (.id user.id)
      match (show List User from refreshed.value) with
      | [] => raise (.other "InvalidRequestError")
      | current :: _ =>
        if current.passwordHash.any env.needsRehash then
          flush .users current.id .any (.passwordHash (env.hash password))
        let _ ← commit
        return current

/-- `authenticate_user`. -/
def authenticateUser (email password : String) : AuthProgram User :=
  match env.normalizeEmail email with
  | .error _ => raise (.authentication genericAuthFailure)
  | .ok canonical => do
    let found ← forUpdate .users (.email canonical)
    match (show Option User from found.value) with
    | none =>
      let _ ← commit
      raise (.authentication genericAuthFailure)
    | some user => authenticateLocked env password found.now user

/-- `create_session`. -/
def createSession (userId : String) (expectedVersion : Nat) : AuthProgram SessionTokens := do
  let touched ← update .users userId (.activeAt expectedVersion) .touch
  match touched.value with
  | none => raise (.authentication genericAuthFailure)
  | some _ =>
    let found ← lock .users userId .any
    match (show Option User from found.value) with
    | none => raise (.authentication genericAuthFailure)
    | some user =>
      if ¬ user.isActive ∨ user.securityVersion ≠ expectedVersion then
        raise (.authentication genericAuthFailure)
      else
        let raw := found.fresh 1
        let session : SessionRow := {
          RefreshSession.opened env.settings found.now (found.fresh 0) user.id raw (found.fresh 2) with
          basis := user.securityVersion }
        add .sessions session
        let _ ← commit
        return ⟨createAccessToken user session.id, raw, session.toRefreshSession⟩

/-- The sign-in: `authenticate_user`, then `create_session` with the verified version. -/
def signIn (email password : String) : AuthProgram SessionTokens := do
  let user ← authenticateUser env email password
  createSession env user.id user.securityVersion

/-! ## Refreshing -/

/-- `rotate_session` when the presented token was exchanged. -/
def exchangeSession (known : Known) (raw : String) (now : Time) (rotatedId : String) :
    AuthProgram (SessionTokens × Loaded) := do
  let replacement := env.settings.successorRefreshToken raw
  let found ← select .sessions (.id rotatedId)
  match (show List SessionRow from found.value) with
  | [] =>
    let _ ← rollback
    raise refreshInvalid
  | session :: _ =>
    let (user, _, later) ← getUser known found.now session.userId
    match user with
    | none => raise (.other "AttributeError")
    | some user =>
      if ¬ user.isActive then
        let _ ← rollback
        raise refreshInvalid
      else
        let extended := session.toRefreshSession.extendIdle env.settings now
        flush .sessions session.id .any (.idleExpiresAt extended.idleExpiresAt)
        add .history ⟨session.id, env.settings.hashToken raw, later⟩
        let _ ← commit
        return (⟨createAccessToken user session.id, replacement, extended⟩,
          ⟨session, found.versions session.userId⟩)

/-- `rotate_session` when the presented token is not the current one of a live session. -/
def replaySession (known : Known) (raw : String) (proofs : List String) :
    AuthProgram (SessionTokens × Loaded) := do
  let replacement := env.settings.successorRefreshToken raw
  let replayed ← select .history (env.settings.hashToken raw)
  match (show List RefreshTokenHistory from replayed.value) with
  | [] =>
    let _ ← rollback
    raise refreshInvalid
  | entry :: _ =>
    let (session, known, retryNow) ← getSession known replayed.now entry.sessionId
    match session with
    | none => raise (.other "AttributeError")
    | some session =>
      let (user, _, _) ← getUser known retryNow session.row.userId
      match user with
      | none => raise (.other "AttributeError")
      | some user =>
        if DuplicateIsCurrent retryNow entry session.row.toRefreshSession user.isActive
            (env.settings.hashToken replacement) then
          match anyProof session.row.csrfToken proofs with
          | .error e => raise e
          | .ok false =>
            let _ ← commit
            raise (.refreshOverlapRetry "Session refresh proof is missing.")
          | .ok true =>
            let _ ← commit
            return (⟨createAccessToken user session.row.id, replacement,
              session.row.toRefreshSession⟩, session)
        else
          if session.row.revokedAt = none then
            flush .sessions session.row.id .any (.revokedAt retryNow)
          let _ ← commit
          raise refreshInvalid

/-- `rotate_session`. -/
def rotateSession (known : Known) (raw : String) (proofs : List String) (now : Time) :
    AuthProgram (SessionTokens × Loaded) := do
  let replacementHash := env.settings.hashToken (env.settings.successorRefreshToken raw)
  let rotated ← updateAll .sessions (.live (env.settings.hashToken raw) now)
    (.rotate replacementHash now)
  match (show List SessionRow from rotated) with
  | row :: _ => exchangeSession env known raw now row.id
  | [] => replaySession env known raw proofs

/-! ## Resolving a request -/

/-- What a request presents: its bearer token or its access cookies, as far as they can be decoded, and
the values of its other cookies. -/
structure Cookies where
  bearer : Bool
  accessTokens : List (Option AccessToken)
  refreshValues : List String
  csrfProofs : List String

/-- The loop of `get_optional_auth` over the access tokens. -/
def resolveAccess (known : Known) (now : Time) : List (Option AccessToken) →
    AuthProgram (Option (AccessToken × User × Loaded) × Known × Time)
  | [] => return (none, known, now)
  | none :: rest => resolveAccess known now rest
  | some token :: rest => do
    let (user, known, now) ← getUser known now token.sub
    let (session, known, now) ← getSession known now token.sid
    match user, session with
    | some user, some session =>
      if session.row.userId = user.id ∧ user.isActive ∧ user.securityVersion = token.sv ∧
          session.row.Live now then
        return (some (token, user, session), known, now)
      else resolveAccess known now rest
    | _, _ => resolveAccess known now rest

/-- The loop of `get_optional_auth` over the refresh cookies. -/
def activeRefresh (now : Time) : List String → Time → AuthProgram (Option String × Time)
  | [], last => return (none, last)
  | value :: rest, _ => do
    let found ← select .sessions (.live (env.settings.hashToken value) now)
    if (show List SessionRow from found.value).isEmpty then activeRefresh now rest found.now
    else return (some value, found.now)

/-- `AuthContext`, with what it was granted on. -/
inductive AuthContext where
  | access (token : AccessToken) (user : User) (session : Loaded)
  | refreshed (tokens : SessionTokens) (session : Loaded)

/-- `get_optional_auth`. -/
def getOptionalAuth (request : Cookies) (now : Time) : AuthProgram (Option AuthContext) := do
  let (accepted, known, later) ← resolveAccess {} now request.accessTokens
  match accepted with
  | some (token, user, session) => return some (.access token user session)
  | none =>
    match request.bearer, request.refreshValues with
    | true, _ => return none
    | false, [] => return none
    | false, first :: rest =>
      let (selected, last) ← activeRefresh env later (first :: rest) later
      match ← Program.attempt
          (rotateSession env known (selected.getD first) request.csrfProofs last) with
      | .ok (tokens, session) => return some (.refreshed tokens session)
      | .error (.refreshOverlapRetry _) => raise (.other "HTTPException")
      | .error (.tokenFlow _) => return none
      | .error e => raise e

/-! ## Changing credentials -/

/-- `revoke_all_sessions`. -/
def revokeAllSessions (userId : String) (now : Time) : AuthProgram Unit := do
  let _ ← updateAll .sessions (.openOf userId) (.revokedAt now)

/-- The credentials of a locked user change. -/
def setCredentials (user : User) (validated : String) : AuthProgram Unit :=
  flush .users user.id .any (.credentials (env.hash validated) (user.securityVersion + 1))

/-- `change_password`. -/
def changePassword (userId currentPassword newPassword : String) : AuthProgram Unit := do
  let found ← lock .users userId .any
  match (show Option User from found.value) with
  | none => raise (.currentPassword "Current password is incorrect.")
  | some user =>
    if ¬ env.verify currentPassword user.passwordHash then
      raise (.currentPassword "Current password is incorrect.")
    else
      let validated ← Program.lift (env.validatePassword newPassword user.email)
      revokeAllSessions user.id found.now
      let _ ← updateAll .resets (.openOf user.id) found.now
      setCredentials env user validated
      let _ ← commit
      return

/-- The ORM marks the prior resets as used. -/
def markUsed (now : Time) : List PasswordReset → AuthProgram Unit
  | [] => return
  | prior :: rest => do
    flush .resets prior.id .any now
    markUsed now rest

/-- `request_password_reset`. -/
def requestPasswordReset (email : String) : AuthProgram Unit :=
  match env.normalizeEmail email with
  | .error _ => return
  | .ok canonical => do
    let found ← forUpdate .users (.email canonical)
    match (show Option User from found.value) with
    | none => return
    | some user =>
      if ¬ user.isActive then return
      else
        let priors ← select .resets (.openOf user.id)
        markUsed found.now priors.value
        let reset : PasswordReset := {
          id := priors.fresh 0
          userId := user.id
          tokenHash := env.settings.hashToken (priors.fresh 1)
          createdAt := found.now
          expiresAt := found.now + seconds 1800
          basis := user.securityVersion }
        add .resets reset
        let _ ← commit
        return

def resetInvalid : AuthExn := .tokenFlow "That password reset link is invalid or expired."

/-- `complete_password_reset` with the reset that it has read under the lock of its user. -/
def consumeReset (user : User) (reset : PasswordReset) (tokenHash password : String) (now : Time) :
    AuthProgram Unit := do
  let validated ← Program.lift (env.validatePassword password user.email)
  let consumed ← update .resets reset.id (.consumable tokenHash now) now
  match consumed.value with
  | none =>
    let _ ← rollback
    raise resetInvalid
  | some _ =>
    let _ ← updateAll .resets (.openOf user.id) now
    revokeAllSessions user.id now
    setCredentials env user validated
    let _ ← commit
    return

/-- `complete_password_reset`. -/
def completePasswordReset (raw password : String) : AuthProgram Unit := do
  let tokenHash := env.settings.hashToken raw
  let found ← select .resets (.token tokenHash)
  match (show List PasswordReset from found.value) with
  | [] => raise resetInvalid
  | first :: _ =>
    let locked ← lock .users first.userId .any
    match (show Option User from locked.value) with
    | none => raise resetInvalid
    | some user =>
      if ¬ user.isActive then raise resetInvalid
      else
        let again ← select .resets (.token tokenHash)
        match (show List PasswordReset from again.value) with
        | [] => raise resetInvalid
        | reset :: _ =>
          if reset.usedAt.isSome ∨ reset.expiresAt ≤ again.now then raise resetInvalid
          else
            let (owner, _, now) ← getUser { users := [user] } again.now reset.userId
            match owner with
            | none => raise (.other "AttributeError")
            | some owner =>
              if ¬ owner.isActive ∨ reset.userId ≠ user.id then raise resetInvalid
              else consumeReset env user reset tokenHash password now

end Flow

end DataMover
