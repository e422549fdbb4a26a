import DataMover.Auth.Sessions
import DataMover.ReadCommitted

/-!
# The tables of the authentication flows

The rows of the tables that signing in, refreshing, changing a password, registering and inviting read
and write, with the where clauses and the assignments of their statements.  `authEvolution` is what no
assignment undoes: a revoked session stays revoked, a used token stays used.
-/

namespace DataMover

open ReadCommitted

/-! ## Rows -/

/-- A row of `refresh_sessions`; `basis` is no column, it remembers the security version that the
session was created on. -/
structure SessionRow extends RefreshSession where
  basis : Nat
  deriving DecidableEq

/-- A row of `password_resets`; `basis` is no column, it remembers the security version of the user
when the reset was requested. -/
structure PasswordReset where
  id : String
  userId : String
  tokenHash : String
  createdAt : Time
  expiresAt : Time
  usedAt : Option Time := none
  basis : Nat
  deriving DecidableEq

/-- A row of `registration_verifications`. -/
structure RegistrationVerification where
  id : String
  userId : String
  tokenHash : String
  createdAt : Time
  expiresAt : Time
  usedAt : Option Time := none
  deriving DecidableEq

/-- A row of `invitations`. -/
structure Invitation where
  id : String
  email : String
  tokenHash : String
  roleName : String
  createdAt : Time
  expiresAt : Time
  acceptedAt : Option Time := none
  revokedAt : Option Time := none
  deriving DecidableEq

inductive AuthTable where
  | users
  | roles
  | sessions
  | history
  | resets
  | verifications
  | invitations
  deriving DecidableEq

/-- A role is its name. -/
def AuthTable.Row : AuthTable → Type
  | users => User
  | roles => String
  | sessions => SessionRow
  | history => RefreshTokenHistory
  | resets => PasswordReset
  | verifications => RegistrationVerification
  | invitations => Invitation

def AuthTable.key : {t : AuthTable} → t.Row → String
  | users, (user : User) => user.id
  | roles, name => name
  | sessions, (session : SessionRow) => session.id
  | history, (replayed : RefreshTokenHistory) => replayed.tokenHash
  | resets, (reset : PasswordReset) => reset.id
  | verifications, (verification : RegistrationVerification) => verification.id
  | invitations, (invitation : Invitation) => invitation.id

/-- The unique columns besides the primary key. -/
def AuthTable.clashes : {t : AuthTable} → t.Row → t.Row → Bool
  | users, (a : User), (b : User) => decide (a.email = b.email)
  | roles, _, _ => false
  | sessions, (a : SessionRow), (b : SessionRow) => decide (a.refreshTokenHash = b.refreshTokenHash)
  | history, _, _ => false
  | resets, (a : PasswordReset), (b : PasswordReset) => decide (a.tokenHash = b.tokenHash)
  | verifications, (a : RegistrationVerification), (b : RegistrationVerification) =>
    decide (a.tokenHash = b.tokenHash)
  | invitations, (a : Invitation), (b : Invitation) => decide (a.tokenHash = b.tokenHash)

/-! ## Where clauses -/

/-- `_LOGIN_LOCKOUT_ATTEMPTS`. -/
def loginLockoutAttempts : Nat := 5

inductive UserQuery where
  | any
  | id (id : String)
  | email (email : String)
  | credentials (passwordHash : Option String) (version : Nat)
  | activeAt (version : Nat)
  deriving DecidableEq

def UserQuery.holds (user : User) : UserQuery → Bool
  | any => true
  | id userId => decide (user.id = userId)
  | email canonical => decide (user.email = canonical)
  | credentials hash version => decide (user.failedLoginAttempts < loginLockoutAttempts ∧
      user.passwordHash = hash ∧ user.securityVersion = version)
  | activeAt version => decide (user.status = .active ∧ user.securityVersion = version)

inductive SessionQuery where
  | any
  | id (id : String)
  | live (tokenHash : String) (now : Time)
  | openOf (userId : String)
  deriving DecidableEq

def SessionQuery.holds (session : SessionRow) : SessionQuery → Bool
  | any => true
  | id sessionId => decide (session.id = sessionId)
  | live tokenHash now => decide (session.refreshTokenHash = tokenHash ∧ session.Live now)
  | openOf userId => decide (session.userId = userId ∧ session.revokedAt = none)

inductive ResetQuery where
  | any
  | token (tokenHash : String)
  | openOf (userId : String)
  | consumable (tokenHash : String) (now : Time)
  deriving DecidableEq

def ResetQuery.holds (reset : PasswordReset) : ResetQuery → Bool
  | any => true
  | token tokenHash => decide (reset.tokenHash = tokenHash)
  | openOf userId => decide (reset.userId = userId ∧ reset.usedAt = none)
  | consumable tokenHash now =>
    decide (reset.tokenHash = tokenHash ∧ reset.usedAt = none ∧ now < reset.expiresAt)

inductive VerificationQuery where
  | token (tokenHash : String)
  | openOf (userId : String)
  | consumable (now : Time)
  | recent (userId : String) (now : Time)
  deriving DecidableEq

def VerificationQuery.holds (verification : RegistrationVerification) : VerificationQuery → Bool
  | token tokenHash => decide (verification.tokenHash = tokenHash)
  | openOf userId => decide (verification.userId = userId ∧ verification.usedAt = none)
  | consumable now => decide (verification.usedAt = none ∧ now < verification.expiresAt)
  | recent userId now => decide (verification.userId = userId ∧ verification.usedAt = none ∧
      now < verification.expiresAt ∧ now - seconds 600 < verification.createdAt)

inductive InvitationQuery where
  | any
  | token (tokenHash : String)
  | pending
  | pendingOf (email : String)
  | consumable (tokenHash : String) (now : Time)
  deriving DecidableEq

/-- The invitation is neither accepted nor revoked. -/
def Invitation.Pending (invitation : Invitation) : Prop :=
  invitation.acceptedAt = none ∧ invitation.revokedAt = none

instance (invitation : Invitation) : Decidable invitation.Pending :=
  inferInstanceAs (Decidable (_ ∧ _))

def InvitationQuery.holds (invitation : Invitation) : InvitationQuery → Bool
  | any => true
  | token tokenHash => decide (invitation.tokenHash = tokenHash)
  | pending => decide invitation.Pending
  | pendingOf email => decide (invitation.email = email ∧ invitation.Pending)
  | consumable tokenHash now =>
    decide (invitation.tokenHash = tokenHash ∧ invitation.Pending ∧ now < invitation.expiresAt)

/-- The histories and the roles are looked up by their unique column. -/
def AuthTable.Query : AuthTable → Type
  | users => UserQuery
  | roles => String
  | sessions => SessionQuery
  | history => String
  | resets => ResetQuery
  | verifications => VerificationQuery
  | invitations => InvitationQuery

def AuthTable.holds : {t : AuthTable} → t.Query → t.Row → Bool
  | users, q, user => UserQuery.holds user q
  | roles, (name : String), (role : String) => decide (role = name)
  | sessions, q, session => SessionQuery.holds session q
  | history, (tokenHash : String), (replayed : RefreshTokenHistory) =>
    decide (replayed.tokenHash = tokenHash)
  | resets, q, reset => ResetQuery.holds reset q
  | verifications, q, verification => VerificationQuery.holds verification q
  | invitations, q, invitation => InvitationQuery.holds invitation q

/-! ## Assignments -/

inductive UserChange where
  /-- `security_version = security_version`. -/
  | touch
  | countFailure
  | clearFailures
  /-- The columns `failed_login_attempts`, where assigned, and `locked_until`. -/
  | loginState (attempts : Option Nat) (lockedUntil : Option Time)
  | passwordHash (passwordHash : String)
  | credentials (passwordHash : String) (version : Nat)
  | verified (passwordHash : Option String) (now : Time)

def UserChange.apply (user : User) : UserChange → User
  | touch => user
  | countFailure =>
    { user with failedLoginAttempts := user.failedLoginAttempts + 1, lockedUntil := none }
  | clearFailures => { user with failedLoginAttempts := 0, lockedUntil := none }
  | loginState attempts lockedUntil =>
    { user with
      failedLoginAttempts := attempts.getD user.failedLoginAttempts, lockedUntil := lockedUntil }
  | passwordHash hash => { user with passwordHash := some hash }
  | credentials hash version =>
    { user with
      passwordHash := some hash, failedLoginAttempts := 0, lockedUntil := none
      securityVersion := version }
  | verified hash now =>
    { user with passwordHash := hash.or user.passwordHash, emailVerifiedAt := some now }

inductive SessionChange where
  | rotate (tokenHash : String) (now : Time)
  | idleExpiresAt (idleExpiresAt : Time)
  | revokedAt (now : Time)

def SessionChange.apply (session : SessionRow) : SessionChange → SessionRow
  | rotate tokenHash now =>
    { session with toRefreshSession := session.toRefreshSession.rotate now tokenHash }
  | idleExpiresAt expires => { session with idleExpiresAt := expires }
  | revokedAt now => { session with revokedAt := some now }

inductive InvitationChange where
  | accept (now : Time)
  | revoke (now : Time)

def InvitationChange.apply (invitation : Invitation) : InvitationChange → Invitation
  | accept now => { invitation with acceptedAt := some now }
  | revoke now => { invitation with revokedAt := some now }

/-- The assignment to a reset or to a verification is the time of its use; roles and histories are
never updated. -/
def AuthTable.Change : AuthTable → Type
  | users => UserChange
  | roles => Empty
  | sessions => SessionChange
  | history => Empty
  | resets => Time
  | verifications => Time
  | invitations => InvitationChange

def AuthTable.apply : {t : AuthTable} → t.Change → t.Row → t.Row
  | users, change, user => UserChange.apply user change
  | roles, change, _ => nomatch change
  | sessions, change, session => SessionChange.apply session change
  | history, change, _ => nomatch change
  | resets, (now : Time), (reset : PasswordReset) =>
    ({ reset with usedAt := some now } : PasswordReset)
  | verifications, (now : Time), (verification : RegistrationVerification) =>
    ({ verification with usedAt := some now } : RegistrationVerification)
  | invitations, change, invitation => InvitationChange.apply invitation change

/-- The schema of the authentication tables. -/
@[reducible] def authSchema : Schema where
  Tab := AuthTable
  decTab := inferInstance
  Row := AuthTable.Row
  Query := AuthTable.Query
  decQuery
    | .users => inferInstanceAs (DecidableEq UserQuery)
    | .roles => inferInstanceAs (DecidableEq String)
    | .sessions => inferInstanceAs (DecidableEq SessionQuery)
    | .history => inferInstanceAs (DecidableEq String)
    | .resets => inferInstanceAs (DecidableEq ResetQuery)
    | .verifications => inferInstanceAs (DecidableEq VerificationQuery)
    | .invitations => inferInstanceAs (DecidableEq InvitationQuery)
  Change := AuthTable.Change
  key := AuthTable.key
  holds := AuthTable.holds
  apply := AuthTable.apply
  clashes := AuthTable.clashes
  key_apply {t} change row := by
    cases t with
    | users => cases (show UserChange from change) <;> rfl
    | roles => exact nomatch change
    | sessions => cases (show SessionChange from change) <;> rfl
    | history => exact nomatch change
    | resets => rfl
    | verifications => rfl
    | invitations => cases (show InvitationChange from change) <;> rfl

/-! ## Evolution -/

/-- What no assignment undoes. -/
def AuthTable.Evolves : {t : AuthTable} → t.Row → t.Row → Prop
  | users, (a : User), (b : User) => b.id = a.id ∧ b.email = a.email ∧
    (a.emailVerifiedAt ≠ none → b.emailVerifiedAt ≠ none)
  | roles, a, b => b = a
  | sessions, (a : SessionRow), (b : SessionRow) => b.id = a.id ∧ b.userId = a.userId ∧
    b.basis = a.basis ∧ (a.revokedAt ≠ none → b.revokedAt ≠ none)
  | history, a, b => b = a
  | resets, (a : PasswordReset), (b : PasswordReset) => b.id = a.id ∧ b.userId = a.userId ∧
    b.basis = a.basis ∧ b.tokenHash = a.tokenHash ∧ (a.usedAt ≠ none → b.usedAt ≠ none)
  | verifications, (a : RegistrationVerification), (b : RegistrationVerification) => b.id = a.id ∧
    b.userId = a.userId ∧ b.tokenHash = a.tokenHash ∧ (a.usedAt ≠ none → b.usedAt ≠ none)
  | invitations, (a : Invitation), (b : Invitation) => b.id = a.id ∧ b.email = a.email ∧
    b.tokenHash = a.tokenHash ∧ (a.acceptedAt ≠ none → b.acceptedAt ≠ none) ∧
    (a.revokedAt ≠ none → b.revokedAt ≠ none)

def authEvolution : Evolution authSchema where
  Rel := AuthTable.Evolves
  refl {t} r := by
    cases t <;> simp [AuthTable.Evolves]
  trans {t} {a b c} ab bc := by
    cases t with
    | roles => exact bc.trans ab
    | history => exact bc.trans ab
    | _ =>
      simp only [AuthTable.Evolves] at ab bc ⊢
      grind
  apply {t} change r := by
    cases t with
    | users =>
      cases (show UserChange from change) <;>
        simp [AuthTable.Evolves, AuthTable.apply, UserChange.apply]
    | roles => exact nomatch change
    | sessions =>
      cases (show SessionChange from change) <;>
        simp [AuthTable.Evolves, AuthTable.apply, SessionChange.apply, RefreshSession.rotate]
    | history => exact nomatch change
    | resets => simp [AuthTable.Evolves, AuthTable.apply]
    | verifications => simp [AuthTable.Evolves, AuthTable.apply]
    | invitations =>
      cases (show InvitationChange from change) <;>
        simp [AuthTable.Evolves, AuthTable.apply, InvitationChange.apply]

end DataMover
