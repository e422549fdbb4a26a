import DataMover.Auth.Enrollment

/-!
# Concurrent calls of the authentication flows

Any number of calls over one database, each a thread with a transaction of its own.  `AuthView` is what
is known of a call from its answers, and `authProtocol` says what its statements rely on: new
credentials are written only after the sessions and the resets of the locked user have been swept, a
session or a reset is only inserted for a locked user, a verification only under the lock on the
role, and a call uses up one token, the one that it presents.
-/

namespace DataMover

open ReadCommitted Program

/-! ## Calls -/

/-- `revoke_session`; the user of a session never changes. -/
def Flow.revokeSession (session : SessionRow) (now : Time) : AuthProgram Unit := do
  let _ ← update .sessions session.id (.openOf session.userId) (.revokedAt now)
  let _ ← commit
  return

inductive AuthCall where
  | signIn (email password : String)
  | rotateSession (raw : String) (proofs : List String) (now : Time)
  | getOptionalAuth (cookies : Flow.Cookies) (now : Time)
  | changePassword (userId currentPassword newPassword : String)
  | requestPasswordReset (email : String)
  | completePasswordReset (raw password : String)
  | requestSelfRegistration (email : String)
  | completeSelfRegistration (raw password : String)
  | createInvitation (email roleName : String)
  | acceptInvitation (raw password : String)
  | revokeInvitation (id : String) (now : Time)
  | revokeSession (session : SessionRow) (now : Time)

/-- The token that a call uses up: the table and the hash. -/
def AuthCall.presents (env : AuthEnv) : AuthCall → Option (AuthTable × String)
  | completePasswordReset raw _ => some (.resets, env.settings.hashToken raw)
  | completeSelfRegistration raw _ => some (.verifications, env.settings.hashToken raw)
  | acceptInvitation raw _ => some (.invitations, env.settings.hashToken raw)
  | _ => none

/-- What a call returns. -/
inductive AuthOutcome where
  | done
  | signedIn (tokens : SessionTokens)
  | context (context : Option Flow.AuthContext)

/-- The program of a call, with the database session that it runs in. -/
def AuthCall.program (env : AuthEnv) (call : AuthCall) : AuthProgram AuthOutcome :=
  Flow.closing <| match call with
  | .signIn email password => return .signedIn (← Flow.signIn env email password)
  | .rotateSession raw proofs now => do
    let (tokens, session) ← Flow.rotateSession env {} raw proofs now
    return .context (some (.refreshed tokens session))
  | .getOptionalAuth cookies now => return .context (← Flow.getOptionalAuth env cookies now)
  | .changePassword userId currentPassword newPassword => do
    Flow.changePassword env userId currentPassword newPassword
    return .done
  | .requestPasswordReset email => do
    Flow.requestPasswordReset env email
    return .done
  | .completePasswordReset raw password => do
    Flow.completePasswordReset env raw password
    return .done
  | .requestSelfRegistration email => do
    Flow.requestSelfRegistration env email
    return .done
  | .completeSelfRegistration raw password => do
    Flow.completeSelfRegistration env raw password
    return .done
  | .createInvitation email roleName => do
    Flow.createInvitation env email roleName
    return .done
  | .acceptInvitation raw password => do
    Flow.acceptInvitation env raw password
    return .done
  | .revokeInvitation id now => do
    Flow.revokeInvitation id now
    return .done
  | .revokeSession session now => do
    Flow.revokeSession session now
    return .done

/-! ## What is known of a call -/

/-- The change writes new credentials, with this security version. -/
def AuthTable.newVersion : {t : AuthTable} → t.Change → Option Nat
  | users, change =>
    match (show UserChange from change) with
    | .credentials _ version => some version
    | _ => none
  | _, _ => none

/-- The update uses up a token. -/
def AuthTable.consumable : {t : AuthTable} → t.Query → t.Change → Bool
  | resets, q, _ => match (show ResetQuery from q) with | .consumable _ _ => true | _ => false
  | verifications, q, _ =>
    match (show VerificationQuery from q) with | .consumable _ => true | _ => false
  | invitations, q, change =>
    match (show InvitationQuery from q), (show InvitationChange from change) with
    | .consumable _ _, .accept _ => true
    | _, _ => false
  | _, _, _ => false

/-- What is known of a call: the locks and the lists of its transaction, whether the transaction has
written new credentials, the rows that it has inserted, the token whose use it commits and the one whose
use it has committed, the rows of users and sessions that were read, and the unused verification that
was read before its unverified user. -/
structure AuthView where
  call : AuthCall
  /-- All answers were possible. -/
  Sane : Prop := True
  tx : Tx authSchema := {}
  bumped : Bool := false
  opening : Option SessionRow := none
  issuing : Option PasswordReset := none
  verifying : Option RegistrationVerification := none
  consuming : Option (Addr authSchema) := none
  consumed : Option (Addr authSchema) := none
  users : List User := []
  sessions : List Flow.Loaded := []
  unused : Option RegistrationVerification := none
  checked : Option RegistrationVerification := none

namespace AuthView

variable (v : AuthView)

/-- The lists that the locks of a transaction protect: the open sessions and resets of a locked user,
and the open verifications under the lock on the role `user`. -/
def protects : (t : AuthTable) → t.Query → Bool
  | .sessions, (.openOf userId : SessionQuery) => (v.tx.held ⟨.users, userId⟩).isSome
  | .resets, (.openOf userId : ResetQuery) => (v.tx.held ⟨.users, userId⟩).isSome
  | .verifications, (.openOf _ : VerificationQuery) => (v.tx.held ⟨.roles, "user"⟩).isSome
  | _, _ => false

/-- The transaction is over without having committed. -/
def ended : AuthView :=
  { v with
    tx := {}, bumped := false, opening := none, issuing := none, verifying := none
    consuming := none }

/-- The transaction has committed. -/
def committed : AuthView := { v.ended with consumed := v.consuming.or v.consumed }

/-- A row of the table was inserted. -/
def inserted : {t : AuthTable} → t.Row → AuthView
  | .sessions, row => { v with opening := some row }
  | .resets, row => { v with issuing := some row }
  | .verifications, row => { v with verifying := some row }
  | _, _ => v

/-- The rows of a `select` were read. -/
def read (versions : String → Nat) : (t : AuthTable) → List t.Row → AuthView
  | .users, (rows : List User) =>
    { v with
      users := rows ++ v.users
      checked := v.unused.filter fun unused => rows.head?.any fun user =>
        decide (user.id = unused.userId ∧ user.emailVerifiedAt = none) }
  | .sessions, (rows : List SessionRow) =>
    { v with sessions := (rows.map fun row => ⟨row, versions row.userId⟩) ++ v.sessions }
  | .verifications, (rows : List RegistrationVerification) =>
    { v with
      unused := rows.head?.filter fun row =>
        row.usedAt.isNone && (v.tx.held ⟨.verifications, row.id⟩).isNone }
  | _, _ => v

/-- A row was updated. -/
def updated {t : AuthTable} (id : String) (q : t.Query) (change : t.Change) : AuthView :=
  { v with
    bumped := v.bumped || (AuthTable.newVersion change).isSome
    consuming := if AuthTable.consumable q change then some ⟨t, id⟩ else v.consuming }

/-- What an answer says beyond the locks and the lists. -/
def note : (s : AuthStmt) → Stamped s.Answer → AuthView
  | .select t _, reply => v.read reply.versions t reply.value
  | .lock _ _ _, _ => v
  | .update t id q change, reply =>
    if (show Option (AuthTable.Row t) from reply.value).isSome then v.updated id q change else v
  | .insert _ row, reply => if (show Bool from reply.value) then v.inserted row else v
  | .commit, _ => v.committed
  | .rollback, _ => v.ended

/-- What is known after an answer; a statement that raises ends the transaction. -/
def observe (s : AuthStmt) : Except AuthExn (Stamped s.Answer) → AuthView
  | .ok reply =>
    { v.note s reply with
      Sane := v.Sane ∧ s.Possible v.tx.held reply.value
      tx := v.tx.observe v.protects s reply.value }
  | .error _ => v.ended

/-! ## What the statements rely on -/

/-- The user is locked, at a version, and no new credentials have been written. -/
def Locks (userId : String) (version : Nat) : Prop :=
  v.bumped = false ∧
    ∃ user : User, v.tx.held ⟨.users, userId⟩ = some user ∧ user.securityVersion = version

/-- The user is locked, and all its sessions and resets are over. -/
def Swept (userId : String) (version : Nat) : Prop :=
  v.Locks userId version ∧ v.opening = none ∧ v.issuing = none ∧
    v.tx.listed .sessions = some (.openOf userId, []) ∧
    v.tx.listed .resets = some (.openOf userId, [])

variable (env : AuthEnv)

/-- The call presents the token that the statement uses up; a verification was checked first. -/
def Presents (id : String) : {t : AuthTable} → t.Query → Prop
  | .resets, q =>
    match (show ResetQuery from q) with
    | .consumable tokenHash _ => v.call.presents env = some (.resets, tokenHash)
    | _ => True
  | .invitations, q =>
    match (show InvitationQuery from q) with
    | .consumable tokenHash _ => v.call.presents env = some (.invitations, tokenHash)
    | _ => True
  | .verifications, _ => ∃ r, v.checked = some r ∧ r.id = id ∧
      v.call.presents env = some (.verifications, r.tokenHash)
  | _, _ => True

/-- What the insertion of a row relies on. -/
def MayInsert : {t : AuthTable} → t.Row → Prop
  | .sessions, (row : SessionRow) => v.opening = none ∧ v.Locks row.userId row.basis
  | .resets, (row : PasswordReset) => v.issuing = none ∧ v.Locks row.userId row.basis ∧
      v.tx.listed .resets = some (.openOf row.userId, [])
  | .verifications, (row : RegistrationVerification) => v.verifying = none ∧
      v.tx.listed .verifications = some (.openOf row.userId, [])
  | _, _ => True

/-- The verification that is used up was checked, and its user is verified now. -/
def Verifies : Prop :=
  ∀ a, v.consuming = some a → a.1 = .verifications → ∃ r, v.checked = some r ∧ r.id = a.2 ∧
    ∃ user : User, v.tx.held ⟨.users, r.userId⟩ = some user ∧ user.emailVerifiedAt ≠ none

/-- What a statement relies on. -/
def Relies : AuthStmt → Prop
  | .update _ id q change =>
    (∀ version, AuthTable.newVersion change = some version →
      ∃ old, version = old + 1 ∧ v.Swept id old) ∧
    (AuthTable.consumable q change = true →
      v.consuming = none ∧ v.consumed = none ∧ v.Presents env id q)
  | .insert _ row => v.MayInsert row
  | .commit => v.Verifies
  | _ => True

end AuthView

/-- The protocol of the flows; nothing is said about a call that was told something impossible. -/
def authProtocol (env : AuthEnv) : Protocol AuthReply AuthExn AuthView where
  Allowed v s := v.Sane → v.Relies env s
  observe v s answer := v.observe s answer

/-! ## The service -/

/-- What the database decides: whether a statement raises, whether a commit that raises has taken effect,
the clock and the random strings. -/
structure AuthOracle where
  raises : Bool := false
  lost : Bool := false
  now : Time
  fresh : Nat → String := fun _ => ""

/-- The committed security version of a user. -/
def versionOf (db : Db authSchema) (userId : String) : Nat :=
  match (show Option User from (db.cell ⟨.users, userId⟩).committed) with
  | some user => user.securityVersion
  | none => 0

/-- The database after a statement of the thread `i` that raises: its transaction is over, and has taken
effect when only the reply to its commit was lost. -/
def authRaised (o : AuthOracle) (i : Nat) (db : Db authSchema) : AuthStmt → Db authSchema
  | .commit => if o.lost then db.commit i else db.rollback i
  | _ => db.rollback i

/-- The answer to a statement of the thread `i`. -/
def authServe (o : AuthOracle) (i : Nat) (db : Db authSchema) (s : AuthStmt) :
    Option (Except AuthExn (Stamped s.Answer) × Db authSchema) :=
  if o.raises then some (.error (.other "DBAPIError"), authRaised o i db s)
  else (db.exec i s).map fun a =>
    (.ok { value := a.1, now := o.now, fresh := o.fresh, versions := versionOf db }, a.2)

/-- Concurrent calls over one database. -/
def authWorkload (env : AuthEnv) :
    Workload AuthReply AuthExn AuthOutcome AuthView (Db authSchema) AuthCall AuthOracle where
  protocol := authProtocol env
  program := AuthCall.program env
  view call := { call }
  serve := authServe

/-- At first there are accounts and roles, and neither sessions nor tokens. -/
def Unused (db : Db authSchema) : Prop :=
  (∀ a, (db.cell a).lock = none) ∧ ∀ t k, t ≠ .users → t ≠ .roles → db.cell ⟨t, k⟩ = {}

/-- All interleavings of the calls. -/
def authSystem (env : AuthEnv) := (authWorkload env).system Unused

end DataMover
