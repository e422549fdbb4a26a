import DataMover.Connections.Tables
import DataMover.Pool

/-!
# Saving, deleting, testing and browsing connections

The functions of `secrets.py` on one connection and the listings of `UserCatalog`, as programs over
the statements that they execute.  The ORM writes an object that it has changed by primary key when
the transaction commits, and of this object the columns whose values differ from those it has
loaded.  Local computation takes no time: what a call reads from the clock is the time of its last
answer.
-/

namespace DataMover

namespace Connections

open ReadCommitted
open Credentials (UserSecret EncryptedEnvelope StoredSecret Drawn KeyRing SaveEnv SaveError encrypt
  decrypt serialize settleStartupPolicy previousBundle fieldMaxBytes)
open PyJson (PyString ofString)
open Sealing (Aead)

/-! ## Surroundings -/

/-- The exceptions of the calls. -/
inductive ConnectionExn where
  /-- `ValueError`, `SecretStorageError`, `KeyError` or `RecursionError`. -/
  | save (e : SaveError)
  /-- `ConnectionNotConfiguredError`. -/
  | notConfigured (message : String)
  | connector (e : ConnectorError)
  | other (typeName : String)

/-- An element of a listing: `RemoteNamespace`. -/
structure RemoteNamespace where
  name : String
  displayName : String
  kind : String := "namespace"
  deriving DecidableEq

/-- `RemoteObject`, with the locator in JSON. -/
structure RemoteObject where
  name : String
  displayName : String
  locator : String
  estimatedRows : Option Nat := none
  sizeBytes : Option Nat := none
  updatedAt : String := ""
  format : String := ""
  deriving DecidableEq

inductive CatalogItem where
  | namespace (item : RemoteNamespace)
  | object (item : RemoteObject)
  deriving DecidableEq

/-- What is cached: the items of a listing and the cursor of a page. -/
structure CatalogPayload where
  items : List CatalogItem
  cursor : Option String := none
  deriving DecidableEq

/-- The functions of other modules and packages, under the settings of the application. -/
structure ConnectionEnv where
  aead : Aead Bytes
  ring : KeyRing
  limits : PyJson.Limits
  activeKeyId : String
  maxWrapsPerKey : Nat
  isDemoMode : Bool
  catalogTtlSeconds : Int
  /-- How often a native upsert starts again before the statement is given up. -/
  upsertAttempts : Nat
  /-- `require_secret_provider(provider, settings).name`. -/
  requireProvider : String → Except SaveError String
  /-- `_validate_credentials(specification, credentials, settings=settings)`. -/
  validate : String → Bundle → Except SaveError Bundle
  /-- `parse_expiry_input`. -/
  parseExpiryInput : PyString → Except SaveError Time
  /-- The time of the `exp` claim of a compact token. -/
  tokenClaim : PyString → Option Time
  casefold : String → String
  /-- `isoformat(timespec="microseconds")`. -/
  isoformat : Time → PyString
  /-- `connection_failure(code, reference_id=…, message=…)`: its code and its message. -/
  connectionFailure : TransferErrorCode → String → Option String → String × String
  redactText : String → String
  /-- `json.dumps` and `json.loads` of what is cached; `none` when it is no dictionary. -/
  dumps : CatalogPayload → String
  loads : String → Option CatalogPayload

/-- The answer to a statement, with the clock and what is drawn next. -/
structure Answered (α : Type) where
  value : α
  now : Time
  newId : String
  drawn : Drawn

abbrev ConnectionStmt := Stmt schema

abbrev ConnectionReply (s : ConnectionStmt) := Answered s.Answer

abbrev ConnectionProgram := Program ConnectionReply ConnectionExn

/-! ## Statements -/

def execute (s : ConnectionStmt) : ConnectionProgram (ConnectionReply s) := Program.call s

def raise {α : Type} (e : ConnectionExn) : ConnectionProgram α := .throw e

/-- The value or the exception of a function of `secrets.py`. -/
def saving {α : Type} : Except SaveError α → ConnectionProgram α
  | .ok a => return a
  | .error e => raise (.save e)

/-- Update the rows that were found, each when it still satisfies the where clause. -/
def updateEach (t : Table) (q : t.Query) (change : t.Change) : List t.Row → Answered Unit →
    ConnectionProgram (Answered (List t.Row))
  | [], last => return { last with value := [] }
  | row :: rows, _ => do
    let updated ← execute (.update t (Table.key row) q change)
    let others ← updateEach t q change rows { updated with value := () }
    return { others with value := updated.value.toList ++ others.value }

/-- `UPDATE` or `DELETE` of all rows that satisfy the where clause. -/
def updateAll (t : Table) (q : t.Query) (change : t.Change) :
    ConnectionProgram (Answered (List t.Row)) := do
  let found ← execute (.select t q)
  updateEach t q change found.value { found with value := () }

/-- `db.refresh` of a row of `user_secrets`. -/
def refresh (id : String) : ConnectionProgram SecretRow := do
  let found ← execute (.select .secrets (.id id : SecretQuery))
  match (show List SecretRow from found.value) with
  | row :: _ => return row
  | [] => raise (.other "InvalidRequestError")

/-- The row of a provider; an object that the session holds is not read again. -/
def reload (known : Option SecretRow) (rows : List SecretRow) : Option SecretRow :=
  rows.head?.map fun row => (known.filter fun held => held.secret.id = row.secret.id).getD row

/-- Closing the database session at the end of a call rolls back. -/
def closing {α : Type} (p : ConnectionProgram α) : ConnectionProgram α := do
  let outcome ← Program.attempt p
  let _ ← Program.attempt (execute .rollback)
  Program.lift outcome

variable (env : ConnectionEnv)

/-! ## Expiry -/

/-- `credentials.get(name)`, where the empty string counts as missing. -/
def entry (credentials : Bundle) (name : String) : PyString :=
  (credentials.get (ofString name)).getD []

/-- `expiry_from_credentials`. -/
def expiryFromCredentials (credentials : Bundle) : Except SaveError (Option Time × String) :=
  let token := entry credentials "token"
  let entered := entry credentials "token_expires_at"
  if token = [] then .ok (none, "unknown")
  else if entered ≠ [] then (env.parseExpiryInput entered).map fun expires => (some expires, "user")
  else if 8192 < token.length ∨ (token.filter (· = PyJson.ofChar '.')).length ≠ 2 then
    .ok (none, "unknown")
  else
    match env.tokenClaim token with
    | some expires => .ok (some expires, "token_claim")
    | none => .ok (none, "unknown")

/-- The settings of a save, with the clock and what is drawn. -/
def saveEnv (last : Answered Unit) : SaveEnv where
  aead := env.aead
  ring := env.ring
  limits := env.limits
  activeKeyId := env.activeKeyId
  maxWrapsPerKey := env.maxWrapsPerKey
  requireProvider := env.requireProvider
  validate := env.validate
  expiry := expiryFromCredentials env
  now := last.now
  newId := last.newId
  drawn := last.drawn

/-! ## Saving -/

/-- `_reserve_master_key_use`. -/
def reserveMasterKeyUse (now : Time) : ConnectionProgram (Answered Unit) := do
  let added ← execute (.insert .keyUsage (⟨env.activeKeyId, 1, now⟩ : KeyUsage))
  if (show Bool from added.value) then return { added with value := () }
  else
    let used ← execute (.update .keyUsage env.activeKeyId env.maxWrapsPerKey now)
    match (show Option KeyUsage from used.value) with
    | some _ => return { used with value := () }
    | none => raise (.save (.storage
        "The active API-token encryption key reached its usage limit; rotate the key."))

/-- The ORM writes the object of the connection. -/
def flushSecret (stored : Option SecretRow) (saved : UserSecret) (now : Time) :
    ConnectionProgram Unit :=
  match stored with
  | some loaded => do
    let written ← execute (.update .secrets loaded.secret.id (.stored : SecretQuery)
      (.save loaded.toUserSecret saved now : SecretChange))
    match (show Option SecretRow from written.value) with
    | some _ => return
    | none => raise (.other "StaleDataError")
  | none => do
    let added ← execute (.insert .secrets ({
      toUserSecret := saved
      generations := [(saved.updatedAt, saved.secret.envelope)] } : SecretRow))
    if (show Bool from added.value) then return else raise (.other "IntegrityError")

/-- `_invalidate_databricks_compute_attempts`, for a Databricks connection. -/
def invalidateAttempts (userId provider : String) (last : Answered Unit) :
    ConnectionProgram (Answered Unit) :=
  if provider = "databricks" then do
    let ended ← updateAll .attempts userId last.now
    return { ended with value := () }
  else return last

/-- The rest of `_store_encrypted_value` for a bundle that differs. -/
def storeChanged (userId provider : String) (encoded : Bytes) (expiry : Option Time × String)
    (stored : Option SecretRow) (last : Answered Unit) : ConnectionProgram (SecretRow × Bool) := do
  let secretId := (stored.map fun row => row.secret.id).getD last.newId
  let reserved ← reserveMasterKeyUse env last.now
  match encrypt env.aead env.ring userId secretId provider encoded env.activeKeyId reserved.drawn with
  | none => raise (.save .key)
  | some envelope =>
    let fresh : UserSecret := { secret := ⟨secretId, userId, provider, envelope⟩,
                                createdAt := reserved.now, updatedAt := reserved.now }
    let object := (stored.map SecretRow.toUserSecret).getD fresh
    let saved := object.replace (saveEnv env reserved) envelope expiry
    let _ ← invalidateAttempts userId provider reserved
    let dropped ← updateAll .caches (.of userId provider : CacheQuery) (.delete : CacheChange)
    flushSecret stored saved dropped.now
    let _ ← execute .commit
    let row ← refresh secretId
    return (row, true)

/-- `_store_encrypted_value`. -/
def storeEncryptedValue (known : Option SecretRow) (userId provider : String) (encoded : Bytes)
    (expiry : Option Time × String) : ConnectionProgram (SecretRow × Bool) := do
  let _ ← execute (.lock .users userId userId)
  let found ← execute (.select .secrets (.of userId provider : SecretQuery))
  let last : Answered Unit := { found with value := () }
  match reload known found.value with
  | none => storeChanged env userId provider encoded expiry none last
  | some stored =>
    let current ← saving (previousBundle (decrypt env.aead env.ring env.limits stored.secret))
    match current with
    | some bundle =>
      if serialize bundle = encoded then
        let _ ← execute .commit
        let row ← refresh stored.secret.id
        return (row, false)
      else storeChanged env userId provider encoded expiry (some stored) last
    | none => storeChanged env userId provider encoded expiry (some stored) last

/-- The bundle as it is stored for the provider, with the row that was read for it. -/
def normalizedFor (userId provider : String) (normalized : Bundle) :
    ConnectionProgram (Bundle × Option SecretRow) :=
  if provider = "databricks" then do
    let found ← execute (.select .secrets (.of userId provider : SecretQuery))
    match (show List SecretRow from found.value) with
    | existing :: _ =>
      let previous ← saving (previousBundle (decrypt env.aead env.ring env.limits existing.secret))
      return (settleStartupPolicy previous normalized, some existing)
    | [] => return (normalized, none)
  else return (normalized, none)

/-- `store_user_credentials_if_changed`: the row, and whether it has changed. -/
def storeUserCredentialsIfChanged (userId provider : String) (credentials : Bundle) :
    ConnectionProgram (SecretRow × Bool) := do
  let name ← saving (env.requireProvider provider)
  let normalized ← saving (env.validate name credentials)
  let (normalized, known) ← normalizedFor env userId name normalized
  let encoded := serialize normalized
  if fieldMaxBytes < encoded.length then
    raise (.save (.value "Connection credentials are too large to store."))
  else
    let expiry ← saving (expiryFromCredentials env normalized)
    storeEncryptedValue env known userId name encoded expiry

/-- `delete_user_secret`. -/
def deleteUserSecret (userId provider : String) : ConnectionProgram Bool := do
  let name ← saving (env.requireProvider provider)
  let _ ← execute (.lock .users userId userId)
  let removed ← updateAll .secrets (.of userId name : SecretQuery) (.delete : SecretChange)
  match (show List SecretRow from removed.value) with
  | [] =>
    let _ ← execute .rollback
    return false
  | _ :: _ =>
    let dropped ← updateAll .caches (.of userId name : CacheQuery) (.delete : CacheChange)
    let _ ← invalidateAttempts userId name { dropped with value := () }
    let _ ← execute .commit
    return true

/-! ## Reading a bundle -/

/-- What a caller is given of a connection: the row and the revision that were read, the bundle that
was decrypted, and the bundle with the generation of a Databricks connection. -/
structure Opened where
  secretId : String
  revision : Time
  bundle : Bundle
  credentials : Bundle

/-- `CredentialEnvelope.decrypt`, whose `CredentialEnvelopeError` becomes a `SecretStorageError`. -/
def bundleOf (row : UserSecret) : Except SaveError Bundle :=
  match decrypt env.aead env.ring env.limits row.secret with
  | .ok bundle => .ok bundle
  | .error (.envelope message) => .error (.storage message)
  | .error (.value message) => .error (.value message)
  | .error .recursion => .error .recursion

/-- `credentials["connection_generation"] = revision.isoformat(timespec="microseconds")`. -/
def withGeneration (provider : String) (revision : Time) (credentials : Bundle) : Bundle :=
  if provider = "databricks" then
    credentials.set (ofString "connection_generation") (env.isoformat revision)
  else credentials

/-- The bundle that a call is given for a row. -/
def credentialsOf (row : UserSecret) : Except SaveError Bundle :=
  (bundleOf env row).map (withGeneration env row.secret.provider row.updatedAt)

/-- `decrypt_user_credentials_for_run_with_revision`. -/
def decryptForRun (known : Option SecretRow) (userId provider : String) :
    ConnectionProgram (Opened × Answered Unit) := do
  let name ← saving (env.requireProvider provider)
  let found ← execute (.select .secrets (.of userId name : SecretQuery))
  match reload known found.value with
  | none => raise (.notConfigured "The requested connection is not configured.")
  | some stored =>
    let bundle ← saving (bundleOf env stored.toUserSecret)
    let _ ← execute (.update .secrets stored.secret.id (.revision stored.updatedAt : SecretQuery)
      (.touch found.now : SecretChange))
    let committed ← execute .commit
    return (⟨stored.secret.id, stored.updatedAt, bundle,
      withGeneration env name stored.updatedAt bundle⟩, { committed with value := () })

/-! ## Testing -/

/-- `ConnectionHealth`. -/
structure ProviderHealth where
  status : String
  message : String
  serverIdentity : String := ""
  runtimeStatus : String := ""
  tokenExpiry : Option Time × String := (none, "unknown")

/-- What a provider test raises. -/
inductive ProbeError where
  | connector (e : ConnectorError)
  | other

/-- The answer of a provider to a test with a bundle, and how long it took. -/
structure Probe where
  result : Bundle → Except ProbeError ProviderHealth
  latencyMs : Nat

/-- The sources of an expiry that a provider has reported. -/
def reportedSources : List String := ["provider", "provider_no_expiry"]

/-- `validation_mode` for a server. -/
def validationMode (serverIdentity : String) : String :=
  if env.isDemoMode ∨ "emulator".toList <:+: (env.casefold serverIdentity).toList then "emulated"
  else "live"

/-- `validation_scope` of a mode, `detailed` for a server that has answered. -/
def validationScope (provider mode : String) (detailed : Bool) : String :=
  if mode = "emulated" then "Emulated provider configuration"
  else if detailed ∧ provider = "databricks" then
    "API-token authentication, compute visibility, and SQL readiness"
  else "Provider connectivity and authentication"

/-- The columns of a test that has failed. -/
def failedHealth (provider reference : String) (failure : String × String) : Health where
  status := "failed"
  validatedAt := none
  mode := validationMode env ""
  scope := validationScope provider (validationMode env "") false
  code := some failure.1
  reference := some reference
  message := clip 240 failure.2
  runtimeStatus := ""
  runtimeUpdatedAt := none

/-- The columns of a test with an answer of the server, and the expiry that it has reported. -/
def answeredHealth (provider reference : String) (health : ProviderHealth) :
    Health × Option (Option Time × String) :=
  let mode := validationMode env health.serverIdentity
  ({ status := health.status
     validatedAt := none
     mode := mode
     scope := validationScope provider mode true
     code := some (if health.status = "connected" then "connection_test_succeeded"
       else "connection_test_incomplete")
     reference := some reference
     message := clip 240 (env.redactText health.message)
     runtimeStatus := health.runtimeStatus
     runtimeUpdatedAt := none },
   if mode = "live" ∧ health.tokenExpiry.2 ∈ reportedSources then
     some health.tokenExpiry
   else none)

/-- What a test makes of the answer of the provider. -/
def probed (provider reference : String) (credentials : Bundle) (probe : Probe) :
    Health × Option (Option Time × String) :=
  match probe.result credentials with
  | .ok health => answeredHealth env provider reference health
  | .error (.connector e) =>
    (failedHealth env provider reference (env.connectionFailure e.code reference (some e.summary)),
      none)
  | .error .other =>
    (failedHealth env provider reference (env.connectionFailure .internalError reference none), none)

/-- The expiry that a test assigns: the one of the provider, or the one in the credentials where
none is known. -/
def assignedExpiry (stored : UserSecret) (credentials : Bundle)
    (reported : Option (Option Time × String)) :
    Except SaveError (Option (Option Time × String)) :=
  match reported with
  | some expiry => .ok (some expiry)
  | none =>
    if stored.tokenExpirySource = "unknown" then
      (expiryFromCredentials env credentials).map fun candidate =>
        if candidate.2 ≠ "unknown" then some candidate else none
    else .ok none

/-- The columns with the latency and the time of the write. -/
def timed (latencyMs : Nat) (now : Time) (health : Health) : Health :=
  { health with
    validatedAt := some now
    message := if health.status = "connected" ∧ latencyMs ≠ 0 then
        clip 240 (health.message ++ " · " ++ toString latencyMs ++ " ms")
      else health.message
    runtimeUpdatedAt := if health.runtimeStatus ≠ "" then some now else none }

/-- What a test writes. -/
def findingOf (provider reference checkId : String) (now : Time) (stored : UserSecret)
    (opened : Opened) (probe : Probe) : Except SaveError Finding :=
  let (health, reported) := probed env provider reference opened.credentials probe
  (assignedExpiry env stored opened.credentials reported).map fun expiry =>
    { checkId := checkId
      revision := stored.updatedAt
      credentials := opened.credentials
      health := timed probe.latencyMs (now + 1000 * probe.latencyMs) health
      expiry := expiry }

/-- What a call returns. -/
inductive ConnectionOutcome where
  | saved (row : SecretRow) (changed : Bool)
  | deleted (found : Bool)
  | tested (row : SecretRow)
  | superseded (row : SecretRow)
  | listed (pages : List CatalogPayload)

/-- The end of a test that was superseded. -/
def superseded (userId provider : String) : ConnectionProgram ConnectionOutcome := do
  let found ← execute (.select .secrets (.of userId provider : SecretQuery))
  match (show List SecretRow from found.value) with
  | current :: _ => return .superseded current
  | [] => raise (.notConfigured "Configure the connection before testing it.")

/-- `test_user_connection` from its last write on. -/
def writeFinding (userId name : String) (stored : SecretRow) (finding : Finding) :
    ConnectionProgram ConnectionOutcome := do
  let written ← execute (.update .secrets stored.secret.id
    (.claimed userId name finding.revision finding.checkId : SecretQuery)
    (.conclude finding : SecretChange))
  let _ ← execute .commit
  match (show Option SecretRow from written.value) with
  | none => superseded userId name
  | some _ =>
    let _ ← execute .commit
    let row ← refresh stored.secret.id
    return .tested row

/-- `test_user_connection` from the claim on. -/
def claimAndTest (userId name : String) (stored : SecretRow) (opened : Opened)
    (reference : String) (probe : Probe) (last : Answered Unit) :
    ConnectionProgram ConnectionOutcome := do
  let claimed ← execute (.update .secrets stored.secret.id
    (.ownedAt userId name stored.updatedAt : SecretQuery) (.claim last.newId : SecretChange))
  let committed ← execute .commit
  match (show Option SecretRow from claimed.value) with
  | none => superseded userId name
  | some _ =>
    let finding ← saving (findingOf env name reference last.newId committed.now stored.toUserSecret
      opened probe)
    writeFinding userId name stored finding

/-- `test_user_connection`. -/
def testUserConnection (userId provider reference : String) (probe : Probe) :
    ConnectionProgram ConnectionOutcome := do
  let name ← saving (env.requireProvider provider)
  let found ← execute (.select .secrets (.of userId name : SecretQuery))
  match (show List SecretRow from found.value) with
  | [] => raise (.notConfigured "Configure the connection before testing it.")
  | stored :: _ =>
    let (opened, last) ← decryptForRun env (some stored) userId provider
    claimAndTest env userId name stored opened reference probe last

/-! ## Browsing -/

/-- An answer of a provider to a listing with a bundle, and how many requests it took. -/
structure ProviderAnswer where
  requests : Nat
  result : Bundle → Except ConnectorError CatalogPayload

/-- A listing: of the namespaces, or of the objects of one. -/
structure Listing where
  provider : String
  catalogNamespace : Option String
  /-- The answers of the provider, one for each page. -/
  answers : List ProviderAnswer

/-- The bundles that a catalog has read, by provider. -/
abbrev Resolved := Dict String Opened

/-- `_credentials_for`. -/
def credentialsFor (userId provider : String) (resolved : Resolved) (last : Answered Unit) :
    ConnectionProgram (Opened × Resolved × Answered Unit) :=
  match resolved.get (env.casefold provider) with
  | some opened => return (opened, resolved, last)
  | none => do
    let (opened, last) ← decryptForRun env none userId (env.casefold provider)
    if env.casefold provider = "databricks" then
      let found ← execute (.select .secrets (.of userId (env.casefold provider) : SecretQuery))
      match (show List SecretRow from found.value) with
      | [] => raise (.connector ⟨.credentialsMissing,
          "The Databricks connection is no longer available.", false, none⟩)
      | row :: _ =>
        let opened := { opened with
          revision := row.updatedAt
          credentials := withGeneration env (env.casefold provider) row.updatedAt opened.credentials }
        return (opened, resolved.set (env.casefold provider) opened, { found with value := () })
    else return (opened, resolved.set (env.casefold provider) opened, last)

/-- `require_current_generation`, before each request of a Databricks connector. -/
def requireCurrentGeneration (userId : String) (opened : Opened) : Nat → Answered Unit →
    ConnectionProgram (Answered Unit)
  | 0, last => return last
  | requests + 1, _ => do
    let found ← execute (.select .secrets (.of userId "databricks" : SecretQuery))
    if (show List SecretRow from found.value).head?.any fun row =>
        env.isoformat row.updatedAt = env.isoformat opened.revision then
      requireCurrentGeneration userId opened requests { found with value := () }
    else raise (.connector ⟨.credentialsStale,
      "The Databricks connection changed during this operation. Reconnect and review the selection again.",
      false, none⟩)

/-- One answer of the provider. -/
def fetch (userId provider : String) (opened : Opened) (credentials : Bundle)
    (answer : ProviderAnswer) (last : Answered Unit) :
    ConnectionProgram (CatalogPayload × Answered Unit) := do
  let last ← requireCurrentGeneration env userId opened
    (if env.casefold provider = "databricks" then answer.requests else 0) last
  match answer.result credentials with
  | .ok page => return (page, last)
  | .error e => raise (.connector e)

/-- The pages of a Databricks listing after the first one. -/
def fetchPages (userId provider : String) (opened : Opened) (credentials : Bundle) :
    List ProviderAnswer → CatalogPayload × Answered Unit →
    ConnectionProgram (CatalogPayload × Answered Unit)
  | answers, (page, last) =>
    match page.cursor with
    | none => return (⟨page.items, none⟩, last)
    | some _ =>
      match answers with
      | [] => raise (.other "the provider does not answer")
      | answer :: rest => do
        let (next, last) ← fetch env userId provider opened credentials answer last
        let items := page.items ++ next.items
        if 10000 < items.length then
          raise (.connector ⟨.sourceLimitExceeded,
            "This workspace has too many visible tables for one catalog request.", false, none⟩)
        else fetchPages userId provider opened credentials rest (⟨items, next.cursor⟩, last)

/-- The first page, and for a Databricks listing all others. -/
def fetchAll (userId provider : String) (opened : Opened) (credentials : Bundle)
    (answers : List ProviderAnswer) (last : Answered Unit) :
    ConnectionProgram (CatalogPayload × Answered Unit) :=
  match answers with
  | [] => raise (.other "the provider does not answer")
  | answer :: rest => do
    let first ← fetch env userId provider opened credentials answer last
    if env.casefold provider = "databricks" then
      fetchPages env userId provider opened credentials rest first
    else return first

/-- `_read_cache`. -/
def readCache (userId provider catalogNamespace : String) (now : Time) :
    ConnectionProgram (Option CatalogPayload × Answered Unit) := do
  let found ← execute
    (.select .caches (.readable userId (env.casefold provider) catalogNamespace now : CacheQuery))
  return ((show List CacheRow from found.value).head?.bind fun row => env.loads row.payloadJson,
    { found with value := () })

/-- The native upsert of a row of the cache, which starts again when the row that it has met is
gone. -/
def upsertCache (row : CacheRow) : Nat → ConnectionProgram Unit
  | 0 => raise (.other "OperationalError")
  | attempts + 1 => do
    let added ← execute (.insert .caches row)
    if (show Bool from added.value) then return
    else
      let scope : CacheQuery := .scope row.userId row.provider row.catalogNamespace
      let found ← execute (.select .caches scope)
      match (show List CacheRow from found.value) with
      | [] => upsertCache row attempts
      | old :: _ =>
        let written ← execute (.update .caches old.id scope
          (.refill row.payloadJson row.fetchedAt row.expiresAt row.fetchedWith : CacheChange))
        match (show Option CacheRow from written.value) with
        | some _ => return
        | none => upsertCache row attempts

/-- `_write_cache`. -/
def writeCache (userId provider catalogNamespace : String) (payload : CatalogPayload)
    (opened : Opened) (last : Answered Unit) : ConnectionProgram (Answered Unit) := do
  upsertCache {
    id := last.newId
    userId := userId
    provider := env.casefold provider
    catalogNamespace := catalogNamespace
    payloadJson := env.dumps payload
    fetchedAt := last.now
    expiresAt := last.now + seconds env.catalogTtlSeconds
    fetchedWith := opened.bundle } env.upsertAttempts
  let committed ← execute .commit
  return { committed with value := () }

/-- The items of a cached listing as namespaces. -/
def namespacesOf (payload : CatalogPayload) : Option (List RemoteNamespace) :=
  payload.items.mapM fun item =>
    match item with
    | .namespace item => some item
    | .object _ => none

/-- The items of a cached listing are objects. -/
def HasObjects (payload : CatalogPayload) : Prop :=
  ∀ item ∈ payload.items, ∃ object, item = .object object

instance (payload : CatalogPayload) : Decidable (HasObjects payload) :=
  decidable_of_iff (payload.items.all fun item =>
      match item with
      | .object _ => true
      | .namespace _ => false) <| by
    rw [List.all_eq_true]
    refine forall₂_congr fun item _ => ?_
    cases item <;> simp

/-- A provider with datasets that the application creates. -/
def provisions (provider : String) : Bool :=
  env.casefold provider = "mss" || env.casefold provider = "mcscop"

/-- The namespaces with the datasets that were created for the user. -/
def withProvisioned (userId provider : String) (items : List RemoteNamespace) :
    ConnectionProgram (List RemoteNamespace) :=
  if provisions env provider then do
    let found ← execute (.select .datasets (.of userId (env.casefold provider) : DatasetQuery))
    let provisioned := (show List FoundryDataset from found.value).mergeSort
      fun a b => decide (b.createdAt ≤ a.createdAt)
    let created := (provisioned.filter fun dataset => dataset.datasetRid ∉ items.map (·.name)).map
      fun dataset => ⟨dataset.datasetRid, dataset.name ++ " · " ++ dataset.datasetRid, "dataset"⟩
    return created ++ items
  else return items

/-- `list_namespaces`. -/
def listNamespaces (userId provider : String) (answers : List ProviderAnswer) (resolved : Resolved)
    (now : Time) : ConnectionProgram (List RemoteNamespace × Resolved × Time) := do
  let (cached, last) ← readCache env userId provider "" now
  match cached with
  | some payload =>
    match namespacesOf payload with
    | none => raise (.other "TypeError")
    | some items =>
      let items ← withProvisioned env userId provider items
      return (items, resolved, last.now)
  | none =>
    let (opened, resolved, last) ← credentialsFor env userId provider resolved last
    match answers with
    | [] => raise (.other "the provider does not answer")
    | answer :: _ =>
      let (payload, last) ← fetch env userId provider opened opened.credentials answer last
      match namespacesOf payload with
      | none => raise (.other "TypeError")
      | some items =>
        let written ← writeCache env userId provider "" payload opened last
        let items ← withProvisioned env userId provider items
        return (items, resolved, written.now)

/-- `branch_for_namespace`. -/
def branchForNamespace (userId provider catalogNamespace : String) (opened : Opened) :
    ConnectionProgram PyString := do
  let found ← execute (.select .datasets
    (.rid userId (env.casefold provider) catalogNamespace : DatasetQuery))
  match (show List FoundryDataset from found.value) with
  | dataset :: _ => return ofString dataset.branch
  | [] =>
    let branch := entry opened.credentials "branch"
    return if branch = [] then ofString "master" else branch

/-- The bundle of a listing of objects. -/
def listingCredentials (userId provider catalogNamespace : String) (opened : Opened) :
    ConnectionProgram Bundle :=
  if provisions env provider then do
    let branch ← branchForNamespace env userId provider catalogNamespace opened
    return opened.credentials.set (ofString "branch") branch
  else return opened.credentials

/-- `list_objects`. -/
def listObjects (userId provider catalogNamespace : String) (answers : List ProviderAnswer)
    (resolved : Resolved) (now : Time) :
    ConnectionProgram (CatalogPayload × Resolved × Time) := do
  let (cached, last) ← readCache env userId provider catalogNamespace now
  match cached with
  | some payload =>
    if HasObjects payload then return (payload, resolved, last.now)
    else raise (.other "ValidationError")
  | none =>
    let (opened, resolved, last) ← credentialsFor env userId provider resolved last
    let credentials ← listingCredentials env userId provider catalogNamespace opened
    let (page, last) ← fetchAll env userId provider opened credentials answers last
    let written ← writeCache env userId provider catalogNamespace page opened last
    return (page, resolved, written.now)

/-- The listings that a request takes from its catalog. -/
def browseAll (userId : String) : List Listing → Resolved → Time →
    ConnectionProgram (List CatalogPayload)
  | [], _, _ => return []
  | listing :: rest, resolved, now =>
    match listing.catalogNamespace with
    | none => do
      let (items, resolved, now) ←
        listNamespaces env userId listing.provider listing.answers resolved now
      let others ← browseAll userId rest resolved now
      return ⟨items.map .namespace, none⟩ :: others
    | some catalogNamespace => do
      let (page, resolved, now) ←
        listObjects env userId listing.provider catalogNamespace listing.answers resolved now
      let others ← browseAll userId rest resolved now
      return page :: others

/-! ## Calls -/

inductive ConnectionCall where
  | save (userId provider : String) (credentials : Bundle)
  | delete (userId provider : String)
  | test (userId provider reference : String) (probe : Probe)
  | browse (userId : String) (listings : List Listing) (now : Time)

/-- The program of a call, with the database session that it runs in. -/
def ConnectionCall.program (call : ConnectionCall) : ConnectionProgram ConnectionOutcome :=
  closing <| match call with
  | .save userId provider credentials => do
    let (row, changed) ← storeUserCredentialsIfChanged env userId provider credentials
    return .saved row changed
  | .delete userId provider => return .deleted (← deleteUserSecret env userId provider)
  | .test userId provider reference probe => testUserConnection env userId provider reference probe
  | .browse userId listings now => return .listed (← browseAll env userId listings [] now)

end Connections

end DataMover
