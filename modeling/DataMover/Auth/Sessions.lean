import DataMover.Runs.State

/-!
# Refresh sessions

The rows of `users`, `refresh_sessions` and `refresh_token_history`, and `create_session`,
`rotate_session` and `revoke_session` as atomic calls.  The conditions and the written columns of their
statements are functions of one row, which the concurrent model of these calls shares.
-/

namespace DataMover

/-! ## Rows -/

inductive UserStatus where
  | active
  | disabled
  | pending
  deriving DecidableEq

/-- A row of `users`: the columns that the authentication flows read. -/
structure User where
  id : String
  email : String
  status : UserStatus := .pending
  emailVerifiedAt : Option Time := none
  passwordHash : Option String := none
  failedLoginAttempts : Nat := 0
  lockedUntil : Option Time := none
  securityVersion : Nat := 1
  deriving DecidableEq

/-- `is_active`. -/
def User.isActive (user : User) : Bool := decide (user.status = .active)

/-- A row of `refresh_sessions`. -/
structure RefreshSession where
  id : String
  userId : String
  refreshTokenHash : String
  csrfToken : String
  createdAt : Time
  lastSeenAt : Time
  idleExpiresAt : Time
  absoluteExpiresAt : Time
  revokedAt : Option Time := none
  deriving DecidableEq

/-- A row of `refresh_token_history`. -/
structure RefreshTokenHistory where
  sessionId : String
  tokenHash : String
  consumedAt : Time
  deriving DecidableEq

/-- The settings of the session lifecycle, with the token functions under their pepper. -/
structure SessionSettings where
  sessionIdleMinutes : Int
  refreshTokenHours : Int
  /-- `hash_token`. -/
  hashToken : String → String
  /-- `successor_refresh_token`. -/
  successorRefreshToken : String → String

/-- `text.isascii()`. -/
def isAscii (text : String) : Bool := text.toList.all fun c => decide (c.toNat < 128)

/-- What `random_token` returns: text of the URL-safe alphabet. -/
abbrev RandomToken := { text : String // isAscii text = true }

/-- The exceptions of the authentication flows. -/
inductive AuthExn where
  | authentication (message : String)
  | accountLocked (message : String)
  | tokenFlow (message : String)
  | refreshOverlapRetry (message : String)
  | currentPassword (message : String)
  | value (message : String)
  | typeError (message : String)
  | other (typeName : String)
  deriving DecidableEq

/-- The claims of an access token that are checked when it is presented. -/
structure AccessToken where
  sub : String
  sid : String
  sv : Nat
  deriving DecidableEq

/-- `SessionTokens`. -/
structure SessionTokens where
  accessToken : AccessToken
  refreshToken : String
  session : RefreshSession
  deriving DecidableEq

/-! ## Statements on one row -/

/-- `create_access_token`. -/
def createAccessToken (user : User) (sessionId : String) : AccessToken :=
  ⟨user.id, sessionId, user.securityVersion⟩

namespace RefreshSession

variable (settings : SessionSettings) (now : Time) (session : RefreshSession)

/-- The row that `create_session` inserts. -/
def opened (id userId : String) (raw csrf : String) : RefreshSession where
  id := id
  userId := userId
  refreshTokenHash := settings.hashToken raw
  csrfToken := csrf
  createdAt := now
  lastSeenAt := now
  idleExpiresAt := now + seconds (60 * settings.sessionIdleMinutes)
  absoluteExpiresAt := now + seconds (3600 * settings.refreshTokenHours)

/-- The session is neither revoked nor expired. -/
def Live : Prop :=
  session.revokedAt = none ∧ now < session.idleExpiresAt ∧ now < session.absoluteExpiresAt

instance : Decidable (session.Live now) := inferInstanceAs (Decidable (_ ∧ _ ∧ _))

/-- The columns that the conditional update of `rotate_session` writes. -/
def rotate (replacementHash : String) : RefreshSession :=
  { session with refreshTokenHash := replacementHash, lastSeenAt := now }

/-- The idle expiry that `rotate_session` writes afterwards. -/
def extendIdle : RefreshSession :=
  { session with
    idleExpiresAt :=
      min (now + seconds (60 * settings.sessionIdleMinutes)) session.absoluteExpiresAt }

/-- `session.revoked_at = session.revoked_at or now`. -/
def revoke : RefreshSession := { session with revokedAt := some (session.revokedAt.getD now) }

end RefreshSession

/-- `_REFRESH_DUPLICATE_GRACE`. -/
def refreshDuplicateGrace : Time := seconds 5

/-- `duplicate_is_current`. -/
def DuplicateIsCurrent (retryNow : Time) (replayed : RefreshTokenHistory) (session : RefreshSession)
    (active : Bool) (replacementHash : String) : Prop :=
  (0 ≤ retryNow - replayed.consumedAt ∧ retryNow - replayed.consumedAt ≤ refreshDuplicateGrace) ∧
    session.Live retryNow ∧ active = true ∧ session.refreshTokenHash = replacementHash

instance (retryNow : Time) (replayed : RefreshTokenHistory) (session : RefreshSession)
    (active : Bool) (replacementHash : String) :
    Decidable (DuplicateIsCurrent retryNow replayed session active replacementHash) :=
  inferInstanceAs (Decidable (_ ∧ _ ∧ _ ∧ _))

/-- `compare_digest` on two strings, which must be ASCII. -/
def compareDigest (a b : String) : Except AuthExn Bool :=
  if isAscii a && isAscii b then .ok (decide (a = b))
  else .error (.typeError "comparing strings with non-ASCII characters is not supported")

/-- `any(compare_digest(proof, csrf_token) for proof in proofs)`. -/
def anyProof (csrfToken : String) : List String → Except AuthExn Bool
  | [] => .ok false
  | proof :: proofs => do
    if ← compareDigest proof csrfToken then return true else anyProof csrfToken proofs

/-- The message of an invalid refresh. -/
def refreshInvalid : AuthExn := .tokenFlow "Refresh session is invalid or expired."

/-! ## The atomic calls -/

/-- The tables of the sessions; `root` remembers the token that a session was created with. -/
structure SessionTable where
  sessions : List RefreshSession
  history : List RefreshTokenHistory
  root : String → String

namespace SessionTable

variable (settings : SessionSettings) (t : SessionTable)

/-- The row with a primary key. -/
def get (id : String) : Option RefreshSession := t.sessions.find? fun s => s.id = id

/-- An `UPDATE` by primary key. -/
def put (session : RefreshSession) : SessionTable :=
  { t with sessions := t.sessions.map fun s => if s.id = session.id then session else s }

/-- `create_session` for a user whose row passes its checks. -/
def createSession (now : Time) (user : User) (id : String) (raw csrf : RandomToken) :
    SessionTokens × SessionTable :=
  let session := RefreshSession.opened settings now id user.id raw.1 csrf.1
  (⟨createAccessToken user id, raw.1, session⟩,
    { t with
      sessions := t.sessions ++ [session]
      root := fun i => if i = id then raw.1 else t.root i })

/-- What a request presents to `rotate_session`, with the users as they are and the two readings of
the clock. -/
structure Presented where
  raw : String
  proofs : List String
  user : String → User
  now : Time
  later : Time

/-- The branch of `rotate_session` for a token of the history. -/
def replay (p : Presented) (replayed : RefreshTokenHistory) (session : RefreshSession) :
    Except AuthExn SessionTokens × SessionTable :=
  let replacement := settings.successorRefreshToken p.raw
  let user := p.user session.userId
  if DuplicateIsCurrent p.later replayed session user.isActive (settings.hashToken replacement) then
    match anyProof session.csrfToken p.proofs with
    | .error e => (.error e, t)
    | .ok false => (.error (.refreshOverlapRetry "Session refresh proof is missing."), t)
    | .ok true => (.ok ⟨createAccessToken user session.id, replacement, session⟩, t)
  else (.error refreshInvalid, t.put (session.revoke p.later))

/-- The branch of `rotate_session` for a session whose token was exchanged. -/
def rotated (p : Presented) (session : RefreshSession) : Except AuthExn SessionTokens × SessionTable :=
  let replacement := settings.successorRefreshToken p.raw
  let user := p.user session.userId
  if ¬ user.isActive then (.error refreshInvalid, t)
  else
    let session := (session.rotate p.now (settings.hashToken replacement)).extendIdle settings p.now
    (.ok ⟨createAccessToken user session.id, replacement, session⟩,
      { t.put session with
        history := t.history ++ [⟨session.id, settings.hashToken p.raw, p.later⟩] })

/-- `rotate_session`. -/
def rotateSession (p : Presented) : Except AuthExn SessionTokens × SessionTable :=
  match t.sessions.find? fun s =>
      s.refreshTokenHash = settings.hashToken p.raw ∧ s.Live p.now with
  | some session => t.rotated settings p session
  | none =>
    match t.history.find? fun h => h.tokenHash = settings.hashToken p.raw with
    | none => (.error refreshInvalid, t)
    | some replayed =>
      match t.get replayed.sessionId with
      | none => (.error (.other "AttributeError"), t)
      | some session => t.replay settings p replayed session

/-- `revoke_session`. -/
def revokeSession (now : Time) (id : String) : SessionTable :=
  { t with sessions := t.sessions.map fun s =>
      if s.id = id ∧ s.revokedAt = none then { s with revokedAt := some now } else s }

end SessionTable

end DataMover
