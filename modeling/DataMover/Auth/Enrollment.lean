import DataMover.Auth.Flows

/-!
# The enrollment flows

The functions of `registration.py` and `invitations.py` that issue, consume and revoke verifications and
invitations, as programs.
-/

namespace DataMover

open ReadCommitted

namespace Flow

variable (env : AuthEnv)

/-- `_lock_role`. -/
def lockRole (name : String) : AuthProgram (Stamped (Option String)) :=
  forUpdate .roles name

/-- The password of a new account is validated in the password mode only. -/
def validateNew (password email : String) : AuthProgram (Option String) :=
  if env.localPassword then Program.lift ((env.validatePassword password email).map some)
  else return none

/-! ## Self-registration -/

/-- The bulk revocation of the pending invitations of an address. -/
def revokePending (canonical : String) (now : Time) : AuthProgram Unit := do
  let _ ← updateAll .invitations (.pendingOf canonical) (.revoke now)

/-- The end of `request_self_registration`: a new verification replaces the unused ones. -/
def issueVerification (userId : String) (now : Time) : AuthProgram Unit := do
  let unused ← select .verifications (.openOf userId)
  let _ ← updateEach .verifications (.openOf userId) now unused.value
  let verification : RegistrationVerification := {
    id := unused.fresh 0
    userId := userId
    tokenHash := env.settings.hashToken (unused.fresh 1)
    createdAt := now
    expiresAt := now + seconds 86400 }
  add .verifications verification
  let _ ← commit
  return

/-- `request_self_registration`. -/
def requestSelfRegistration (email : String) : AuthProgram Unit := do
  let canonical ← Program.lift (env.normalizeEmail email)
  let role ← lockRole "user"
  match role.value with
  | none =>
    let _ ← rollback
    raise (.other "RuntimeError")
  | some _ =>
    let found ← select .users (.email canonical)
    let now := found.now
    match (show List User from found.value) with
    | user :: _ =>
      if user.status ≠ .pending ∨ user.emailVerifiedAt.isSome then
        let _ ← rollback
        return
      else
        revokePending canonical now
        let recent ← select .verifications (.recent user.id now)
        if (show List RegistrationVerification from recent.value).isEmpty then
          issueVerification env user.id now
        else
          let _ ← commit
          return
    | [] =>
      revokePending canonical now
      let user : User := { id := found.fresh 0, email := canonical }
      let added ← insert .users user
      if ¬ added.value then
        let _ ← rollback
        return
      else issueVerification env user.id now

def verificationInvalid : AuthExn :=
  .tokenFlow "That registration verification link is invalid or expired."

/-- `get_valid_registration_verification`, with the user that it loads. -/
def getValidRegistrationVerification (raw : String) :
    AuthProgram (RegistrationVerification × User × Time) := do
  let found ← select .verifications (.token (env.settings.hashToken raw))
  match (show List RegistrationVerification from found.value) with
  | [] => raise verificationInvalid
  | verification :: _ =>
    if verification.usedAt.isSome ∨ verification.expiresAt ≤ found.now then
      raise verificationInvalid
    else
      let owner ← select .users (.id verification.userId)
      match (show List User from owner.value) with
      | [] => raise (.other "AttributeError")
      | user :: _ =>
        if user.status ≠ .pending ∨ user.emailVerifiedAt.isSome then raise verificationInvalid
        else return (verification, user, owner.now)

/-- `complete_self_registration`. -/
def completeSelfRegistration (raw password : String) : AuthProgram Unit := do
  let (verification, user, now) ← getValidRegistrationVerification env raw
  let validated ← validateNew env password user.email
  let consumed ← update .verifications verification.id (.consumable now) now
  match consumed.value with
  | none =>
    let _ ← rollback
    raise verificationInvalid
  | some _ =>
    let _ ← updateAll .verifications (.openOf user.id) now
    flush .users user.id .any (.verified (validated.map env.hash) now)
    let _ ← commit
    return

/-! ## Invitations -/

/-- The ORM marks the prior invitations as revoked. -/
def markRevoked (now : Time) : List Invitation → AuthProgram Unit
  | [] => return
  | prior :: rest => do
    flush .invitations prior.id .any (.revoke now)
    markRevoked now rest

/-- `create_invitation`. -/
def createInvitation (email roleName : String) : AuthProgram Unit := do
  let canonical ← Program.lift (env.normalizeEmail email)
  let role ← lockRole roleName
  let account ← select .users (.email canonical)
  if ¬ (show List User from account.value).isEmpty then
    let _ ← rollback
    raise (.value "An account already exists for that email address.")
  else
    match role.value with
    | none =>
      let _ ← rollback
      raise (.value "Select a valid role.")
    | some _ =>
      let now := account.now
      let priors ← select .invitations (.pendingOf canonical)
      markRevoked now priors.value
      let invitation : Invitation := {
        id := priors.fresh 0
        email := canonical
        tokenHash := env.settings.hashToken (priors.fresh 1)
        roleName := roleName
        createdAt := now
        expiresAt := now + seconds 172800 }
      add .invitations invitation
      let _ ← commit
      return

def invitationInvalid : AuthExn := .tokenFlow "That invitation is invalid or expired."

/-- `get_valid_invitation`. -/
def getValidInvitation (raw : String) : AuthProgram Invitation := do
  let found ← select .invitations (.token (env.settings.hashToken raw))
  match (show List Invitation from found.value) with
  | [] => raise invitationInvalid
  | invitation :: _ =>
    if invitation.acceptedAt.isSome ∨ invitation.revokedAt.isSome ∨
        invitation.expiresAt ≤ found.now then raise invitationInvalid
    else return invitation

/-- `accept_invitation`. -/
def acceptInvitation (raw password : String) : AuthProgram Unit := do
  let invitation ← getValidInvitation env raw
  let account ← select .users (.email invitation.email)
  if ¬ (show List User from account.value).isEmpty then
    raise (.tokenFlow "An account already exists for that email address.")
  else
    let validated ← validateNew env password invitation.email
    let now := account.now
    let role ← select .roles invitation.roleName
    if (show List String from role.value).isEmpty then
      raise (.tokenFlow "The invitation role is no longer available.")
    else
      let consumed ← update .invitations invitation.id
        (.consumable (env.settings.hashToken raw) now) (.accept now)
      match consumed.value with
      | none =>
        let _ ← rollback
        raise invitationInvalid
      | some _ =>
        let user : User := {
          id := consumed.fresh 0
          email := invitation.email
          status := .active
          emailVerifiedAt := some now
          passwordHash := validated.map env.hash }
        let added ← insert .users user
        if ¬ added.value then
          let _ ← rollback
          raise invitationInvalid
        else
          let _ ← commit
          return

/-- `revoke_invitation`. -/
def revokeInvitation (id : String) (now : Time) : AuthProgram Unit := do
  let revoked ← update .invitations id .pending (.revoke now)
  match revoked.value with
  | none =>
    let _ ← rollback
    raise (.value "Only a pending invitation can be revoked.")
  | some _ =>
    let _ ← commit
    return

end Flow

end DataMover
