import DataMover.Credentials.Storing
import DataMover.ReadCommitted

/-!
# The tables of the connections

The rows that saving, deleting and testing a connection and browsing its catalog read and write,
with the where clauses and the assignments of their statements.  A deleted row stays as a row that
no where clause selects.
-/

namespace DataMover

namespace Connections

open ReadCommitted
open Credentials (UserSecret EncryptedEnvelope CatalogCacheRow)
open PyJson (PyString)

/-- A bundle of credentials. -/
abbrev Bundle := Dict PyString PyString

/-! ## Rows -/

/-- The columns of `user_secrets` that a connection test fills in. -/
structure Health where
  status : String
  validatedAt : Option Time
  mode : String
  scope : String
  code : Option String
  reference : Option String
  message : String
  runtimeStatus : String
  runtimeUpdatedAt : Option Time
  deriving DecidableEq

/-- What a connection test writes: the claim that it has made, the bundle that it has used, and what
it has found. -/
structure Finding where
  checkId : String
  revision : Time
  credentials : Bundle
  health : Health
  /-- `token_expires_at` and `token_expiry_source`, where the test assigns them. -/
  expiry : Option (Option Time × String)
  deriving DecidableEq

/-- A row of `user_secrets`; the last four are no columns.  They remember that the row was deleted,
the envelopes that it has had and since when, the claims that tests have made on it, latest first,
and what tests have written into it, with the last claim on their revision at that time. -/
structure SecretRow extends UserSecret where
  deleted : Bool := false
  generations : List (Time × EncryptedEnvelope)
  claims : List (Time × String) := []
  findings : List (Finding × Option String) := []

/-- A row of `pipeline_catalog_cache`; the last two are no columns.  They remember the bundle that
the payload was fetched with and that the row was deleted. -/
structure CacheRow extends CatalogCacheRow where
  fetchedAt : Time
  expiresAt : Time
  fetchedWith : Bundle
  deleted : Bool := false

/-- A row of `api_token_key_usage`. -/
structure KeyUsage where
  keyId : String
  wrapCount : Nat
  updatedAt : Time

/-- A row of `foundry_datasets`. -/
structure FoundryDataset where
  id : String
  userId : String
  provider : String
  datasetRid : String
  name : String
  branch : String
  createdAt : Time

inductive Table where
  | users
  | secrets
  | caches
  | keyUsage
  | attempts
  | datasets
  deriving DecidableEq

/-- A user is its id. -/
def Table.Row : Table → Type
  | users => String
  | secrets => SecretRow
  | caches => CacheRow
  | keyUsage => KeyUsage
  | attempts => DatabricksComputeAttempt
  | datasets => FoundryDataset

def Table.key : {t : Table} → t.Row → String
  | users, id => id
  | secrets, (row : SecretRow) => row.secret.id
  | caches, (row : CacheRow) => row.id
  | keyUsage, (usage : KeyUsage) => usage.keyId
  | attempts, (attempt : DatabricksComputeAttempt) => attempt.id
  | datasets, (dataset : FoundryDataset) => dataset.id

/-- The row belongs to the provider of the user. -/
def SecretRow.Of (row : SecretRow) (userId provider : String) : Prop :=
  row.deleted = false ∧ row.secret.userId = userId ∧ row.secret.provider = provider

instance (row : SecretRow) (userId provider : String) : Decidable (row.Of userId provider) :=
  inferInstanceAs (Decidable (_ ∧ _))

def CacheRow.Of (row : CacheRow) (userId provider : String) : Prop :=
  row.deleted = false ∧ row.userId = userId ∧ row.provider = provider

instance (row : CacheRow) (userId provider : String) : Decidable (row.Of userId provider) :=
  inferInstanceAs (Decidable (_ ∧ _))

/-- The unique columns besides the primary key; no attempt is inserted here. -/
def Table.clashes : {t : Table} → t.Row → t.Row → Bool
  | secrets, (a : SecretRow), (b : SecretRow) =>
    decide (a.deleted = false ∧ b.Of a.secret.userId a.secret.provider)
  | caches, (a : CacheRow), (b : CacheRow) =>
    decide (a.deleted = false ∧ b.Of a.userId a.provider ∧ b.catalogNamespace = a.catalogNamespace)
  | _, _, _ => false

/-! ## Where clauses -/

inductive SecretQuery where
  /-- By primary key only. -/
  | stored
  | id (id : String)
  | of (userId provider : String)
  | revision (updatedAt : Time)
  | ownedAt (userId provider : String) (updatedAt : Time)
  | claimed (userId provider : String) (updatedAt : Time) (checkId : String)
  deriving DecidableEq

def SecretQuery.holds (row : SecretRow) : SecretQuery → Bool
  | stored => decide (row.deleted = false)
  | id secretId => decide (row.deleted = false ∧ row.secret.id = secretId)
  | of userId provider => decide (row.Of userId provider)
  | revision updatedAt => decide (row.deleted = false ∧ row.updatedAt = updatedAt)
  | ownedAt userId provider updatedAt =>
    decide (row.Of userId provider ∧ row.updatedAt = updatedAt)
  | claimed userId provider updatedAt checkId =>
    decide (row.Of userId provider ∧ row.updatedAt = updatedAt ∧
      row.validationCheckId = some checkId)

inductive CacheQuery where
  | of (userId provider : String)
  | scope (userId provider catalogNamespace : String)
  | readable (userId provider catalogNamespace : String) (now : Time)
  deriving DecidableEq

def CacheQuery.holds (row : CacheRow) : CacheQuery → Bool
  | of userId provider => decide (row.Of userId provider)
  | scope userId provider catalogNamespace =>
    decide (row.Of userId provider ∧ row.catalogNamespace = catalogNamespace)
  | readable userId provider catalogNamespace now =>
    decide (row.Of userId provider ∧ row.catalogNamespace = catalogNamespace ∧ now < row.expiresAt)

inductive DatasetQuery where
  | of (userId provider : String)
  | rid (userId provider datasetRid : String)
  deriving DecidableEq

def DatasetQuery.holds (dataset : FoundryDataset) : DatasetQuery → Bool
  | of userId provider => decide (dataset.userId = userId ∧ dataset.provider = provider)
  | rid userId provider datasetRid =>
    decide (dataset.userId = userId ∧ dataset.provider = provider ∧ dataset.datasetRid = datasetRid)

/-- Users are locked by id, a key is used below a limit, and attempts are looked up by their
user. -/
def Table.Query : Table → Type
  | users => String
  | secrets => SecretQuery
  | caches => CacheQuery
  | keyUsage => Nat
  | attempts => String
  | datasets => DatasetQuery

def Table.holds : {t : Table} → t.Query → t.Row → Bool
  | users, (userId : String), (user : String) => decide (user = userId)
  | secrets, q, row => SecretQuery.holds row q
  | caches, q, row => CacheQuery.holds row q
  | keyUsage, (limit : Nat), (usage : KeyUsage) => decide (usage.wrapCount < limit)
  | attempts, (userId : String), (attempt : DatabricksComputeAttempt) =>
    decide (attempt.userId = userId ∧ attempt.activeKey ≠ none)
  | datasets, q, dataset => DatasetQuery.holds dataset q

/-! ## Assignments -/

/-- The `UPDATE` of an object that was loaded as `old` and is `new` in the session. -/
def flushChanged (old new current : UserSecret) : UserSecret where
  secret :=
    { current.secret with
      envelope :=
        { ciphertext := flush old.secret.envelope.ciphertext new.secret.envelope.ciphertext
            current.secret.envelope.ciphertext
          nonce := flush old.secret.envelope.nonce new.secret.envelope.nonce
            current.secret.envelope.nonce
          encryptedDataKey := flush old.secret.envelope.encryptedDataKey
            new.secret.envelope.encryptedDataKey current.secret.envelope.encryptedDataKey
          keyNonce := flush old.secret.envelope.keyNonce new.secret.envelope.keyNonce
            current.secret.envelope.keyNonce
          masterKeyId := flush old.secret.envelope.masterKeyId new.secret.envelope.masterKeyId
            current.secret.envelope.masterKeyId } }
  createdAt := flush old.createdAt new.createdAt current.createdAt
  updatedAt := flush old.updatedAt new.updatedAt current.updatedAt
  lastUsedAt := flush old.lastUsedAt new.lastUsedAt current.lastUsedAt
  tokenExpiresAt := flush old.tokenExpiresAt new.tokenExpiresAt current.tokenExpiresAt
  tokenExpirySource := flush old.tokenExpirySource new.tokenExpirySource current.tokenExpirySource
  validationStatus := flush old.validationStatus new.validationStatus current.validationStatus
  validatedAt := flush old.validatedAt new.validatedAt current.validatedAt
  validationCheckId := flush old.validationCheckId new.validationCheckId current.validationCheckId
  validationMode := flush old.validationMode new.validationMode current.validationMode
  validationScope := flush old.validationScope new.validationScope current.validationScope
  validationCode := flush old.validationCode new.validationCode current.validationCode
  validationReference :=
    flush old.validationReference new.validationReference current.validationReference
  validationMessage := flush old.validationMessage new.validationMessage current.validationMessage
  runtimeStatus := flush old.runtimeStatus new.runtimeStatus current.runtimeStatus
  runtimeUpdatedAt := flush old.runtimeUpdatedAt new.runtimeUpdatedAt current.runtimeUpdatedAt

/-- The columns that a connection test fills in. -/
def healthOf (row : UserSecret) : Health where
  status := row.validationStatus
  validatedAt := row.validatedAt
  mode := row.validationMode
  scope := row.validationScope
  code := row.validationCode
  reference := row.validationReference
  message := row.validationMessage
  runtimeStatus := row.runtimeStatus
  runtimeUpdatedAt := row.runtimeUpdatedAt

/-- The last claim on a revision. -/
def lastClaim (revision : Time) (claims : List (Time × String)) : Option String :=
  claims.lookup revision

namespace SecretRow

variable (row : SecretRow)

/-- A test has claimed the row. -/
def claim (checkId : String) : SecretRow :=
  { row with
    validationCheckId := some checkId
    claims := (row.updatedAt, checkId) :: row.claims }

/-- A test has written what it has found. -/
def conclude (finding : Finding) : SecretRow :=
  { row with
    validationCheckId := none
    validationStatus := finding.health.status
    validatedAt := finding.health.validatedAt
    validationMode := finding.health.mode
    validationScope := finding.health.scope
    validationCode := finding.health.code
    validationReference := finding.health.reference
    validationMessage := finding.health.message
    runtimeStatus := finding.health.runtimeStatus
    runtimeUpdatedAt := finding.health.runtimeUpdatedAt
    tokenExpiresAt := (finding.expiry.map Prod.fst).getD row.tokenExpiresAt
    tokenExpirySource := (finding.expiry.map Prod.snd).getD row.tokenExpirySource
    findings := (finding, lastClaim row.updatedAt row.claims) :: row.findings }

/-- A save has written the columns that it has changed; `updated_at` is set by every `UPDATE` that
does not assign it. -/
def save (loaded saved : UserSecret) (now : Time) : SecretRow :=
  let written :=
    { flushChanged loaded saved row.toUserSecret with
      updatedAt := if saved.updatedAt = loaded.updatedAt then now else saved.updatedAt }
  { row with
    toUserSecret := written
    generations := (written.updatedAt, written.secret.envelope) :: row.generations }

end SecretRow

inductive SecretChange where
  /-- `last_used_at`; the revision stays. -/
  | touch (now : Time)
  | claim (checkId : String)
  | conclude (finding : Finding)
  | save (loaded saved : UserSecret) (now : Time)
  | delete

def SecretChange.apply (row : SecretRow) : SecretChange → SecretRow
  | touch now => { row with lastUsedAt := some now }
  | claim checkId => row.claim checkId
  | conclude finding => row.conclude finding
  | save loaded saved now => row.save loaded saved now
  | delete => { row with deleted := true }

inductive CacheChange where
  | refill (payloadJson : String) (fetchedAt expiresAt : Time) (fetchedWith : Bundle)
  | delete

def CacheChange.apply (row : CacheRow) : CacheChange → CacheRow
  | refill payloadJson fetchedAt expiresAt fetchedWith =>
    { row with
      payloadJson := payloadJson, fetchedAt := fetchedAt, expiresAt := expiresAt
      fetchedWith := fetchedWith }
  | delete => { row with deleted := true }

/-- A key and an attempt are updated at a time; users and datasets are never updated. -/
def Table.Change : Table → Type
  | users => Empty
  | secrets => SecretChange
  | caches => CacheChange
  | keyUsage => Time
  | attempts => Time
  | datasets => Empty

def Table.apply : {t : Table} → t.Change → t.Row → t.Row
  | users, change, _ => nomatch change
  | secrets, change, row => SecretChange.apply row change
  | caches, change, row => CacheChange.apply row change
  | keyUsage, (now : Time), (usage : KeyUsage) =>
    ({ usage with wrapCount := usage.wrapCount + 1, updatedAt := now } : KeyUsage)
  | attempts, (now : Time), (attempt : DatabricksComputeAttempt) =>
    attempt.invalidate now attempt.userId
  | datasets, change, _ => nomatch change

theorem id_invalidate (now : Time) (userId : String) (attempt : DatabricksComputeAttempt) :
    (attempt.invalidate now userId).id = attempt.id := by
  unfold DatabricksComputeAttempt.invalidate
  split_ifs <;> rfl

/-- The schema of the connection tables. -/
@[reducible] def schema : Schema where
  Tab := Table
  decTab := inferInstance
  Row := Table.Row
  Query := Table.Query
  decQuery
    | .users => inferInstanceAs (DecidableEq String)
    | .secrets => inferInstanceAs (DecidableEq SecretQuery)
    | .caches => inferInstanceAs (DecidableEq CacheQuery)
    | .keyUsage => inferInstanceAs (DecidableEq Nat)
    | .attempts => inferInstanceAs (DecidableEq String)
    | .datasets => inferInstanceAs (DecidableEq DatasetQuery)
  Change := Table.Change
  key := Table.key
  holds := Table.holds
  apply := Table.apply
  clashes := Table.clashes
  key_apply {t} change row := by
    cases t with
    | users => exact nomatch change
    | secrets => cases (show SecretChange from change) <;> rfl
    | caches => cases (show CacheChange from change) <;> rfl
    | keyUsage => rfl
    | attempts => exact id_invalidate ..
    | datasets => exact nomatch change

/-! ## Evolution -/

/-- What no assignment undoes. -/
def Table.Evolves : {t : Table} → t.Row → t.Row → Prop
  | secrets, (a : SecretRow), (b : SecretRow) => b.secret.id = a.secret.id ∧
    b.secret.userId = a.secret.userId ∧ b.secret.provider = a.secret.provider ∧
    (a.deleted = true → b.deleted = true) ∧ a.generations <:+ b.generations ∧ a.claims <:+ b.claims
  | caches, (a : CacheRow), (b : CacheRow) => b.userId = a.userId ∧ b.provider = a.provider ∧
    (a.deleted = true → b.deleted = true)
  | _, _, _ => True

def evolution : Evolution schema where
  Rel := Table.Evolves
  refl {t} r := by
    cases t with
    | secrets => exact ⟨rfl, rfl, rfl, id, List.suffix_rfl, List.suffix_rfl⟩
    | caches => exact ⟨rfl, rfl, id⟩
    | _ => trivial
  trans {t} {a b c} ab bc := by
    cases t with
    | secrets =>
      obtain ⟨id, user, provider, deleted, generations, claims⟩ := ab
      obtain ⟨id', user', provider', deleted', generations', claims'⟩ := bc
      exact ⟨id'.trans id, user'.trans user, provider'.trans provider, deleted' ∘ deleted,
        generations.trans generations', claims.trans claims'⟩
    | caches =>
      obtain ⟨user, provider, deleted⟩ := ab
      obtain ⟨user', provider', deleted'⟩ := bc
      exact ⟨user'.trans user, provider'.trans provider, deleted' ∘ deleted⟩
    | _ => trivial
  apply {t} change r := by
    cases t with
    | secrets =>
      cases (show SecretChange from change) with
      | touch now => exact ⟨rfl, rfl, rfl, id, List.suffix_rfl, List.suffix_rfl⟩
      | claim checkId => exact ⟨rfl, rfl, rfl, id, List.suffix_rfl, List.suffix_cons _ _⟩
      | conclude finding => exact ⟨rfl, rfl, rfl, id, List.suffix_rfl, List.suffix_rfl⟩
      | save loaded saved now => exact ⟨rfl, rfl, rfl, id, List.suffix_cons _ _, List.suffix_rfl⟩
      | delete => exact ⟨rfl, rfl, rfl, fun _ => rfl, List.suffix_rfl, List.suffix_rfl⟩
    | caches =>
      cases (show CacheChange from change) with
      | refill => exact ⟨rfl, rfl, id⟩
      | delete => exact ⟨rfl, rfl, fun _ => rfl⟩
    | _ => trivial

end Connections

end DataMover
