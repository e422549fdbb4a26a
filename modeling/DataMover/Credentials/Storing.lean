import DataMover.Compute.Attempts
import DataMover.Credentials.Envelope

/-!
# Saving credentials

`store_user_credentials_if_changed` under the lock of the user's row: a bundle is compared with what the
stored envelope holds, and only a different one is encrypted again, which uses up the key once more,
ends the compute attempts of the user and drops the cached catalog.
-/

namespace DataMover

namespace Credentials

open PyJson (PyString ofString Joined JoinedDict sortKeys)
open Sealing (Aead)

/-! ## Tables -/

/-- A row of `user_secrets`. -/
structure UserSecret where
  secret : StoredSecret
  createdAt : Time
  updatedAt : Time
  lastUsedAt : Option Time := none
  tokenExpiresAt : Option Time := none
  tokenExpirySource : String := "unknown"
  validationStatus : String := "untested"
  validatedAt : Option Time := none
  validationCheckId : Option String := none
  validationMode : String := "unknown"
  validationScope : String := ""
  validationCode : Option String := none
  validationReference : Option String := none
  validationMessage : String := ""
  runtimeStatus : String := ""
  runtimeUpdatedAt : Option Time := none

/-- A row of `pipeline_catalog_cache`. -/
structure CatalogCacheRow where
  id : String
  userId : String
  provider : String
  catalogNamespace : String
  payloadJson : String

/-- The tables that a save writes. -/
structure SecretTables where
  secrets : List UserSecret
  /-- `api_token_key_usage`: the wraps of a key, and when it was used. -/
  keyUsage : Dict String (Nat × Time)
  attempts : List DatabricksComputeAttempt
  catalogCache : List CatalogCacheRow

/-- The row of a user and a provider. -/
def SecretTables.find (db : SecretTables) (userId provider : String) : Option UserSecret :=
  db.secrets.find? fun row => row.secret.userId = userId && row.secret.provider = provider

/-- What a save raises. -/
inductive SaveError where
  | value (message : String)
  | storage (message : String)
  | key
  | recursion

/-- The settings, the validation of a bundle, the clock and what is drawn. -/
structure SaveEnv where
  aead : Aead Bytes
  ring : KeyRing
  limits : PyJson.Limits
  activeKeyId : String
  maxWrapsPerKey : Nat
  /-- The name of `require_secret_provider(provider, settings)`. -/
  requireProvider : String → Except SaveError String
  /-- `_validate_credentials(specification, credentials, settings=settings)`. -/
  validate : String → Dict PyString PyString → Except SaveError (Dict PyString PyString)
  /-- `expiry_from_credentials(credentials)`. -/
  expiry : Dict PyString PyString → Except SaveError (Option Time × String)
  now : Time
  newId : String
  drawn : Drawn

/-- `_FIELD_MAX_BYTES`. -/
def fieldMaxBytes : Nat := 8192

/-! ## Saving -/

/-- The fields that name a Databricks connection. -/
def identityFields : List PyString :=
  ["workspace_url", "token", "compute_kind", "compute_id", "http_path"].map ofString

/-- `normalized["startup_policy"] = "manual"`. -/
def manualStartup (normalized : Dict PyString PyString) : Dict PyString PyString :=
  normalized.set (ofString "startup_policy") (ofString "manual")

/-- The bundle of a row, `none` for a `CredentialEnvelopeError`; other exceptions are not handled. -/
def previousBundle : Except DecryptError (Dict PyString PyString) →
    Except SaveError (Option (Dict PyString PyString))
  | .ok previous => .ok (some previous)
  | .error (.envelope _) => .ok none
  | .error (.value message) => .error (.value message)
  | .error .recursion => .error .recursion

/-- The bundle to store: another Databricks connection has to be started by hand. -/
def settleStartupPolicy (previous : Option (Dict PyString PyString))
    (normalized : Dict PyString PyString) : Dict PyString PyString :=
  match previous with
  | none => manualStartup normalized
  | some previous =>
    if identityFields.any fun name => (previous.get name).getD [] ≠ (normalized.get name).getD [] then
      manualStartup normalized
    else normalized

variable (env : SaveEnv)

/-- `_reserve_master_key_use`. -/
def reserveMasterKeyUse (usage : Dict String (Nat × Time)) : Option (Dict String (Nat × Time)) :=
  match usage.get env.activeKeyId with
  | none => some (usage.set env.activeKeyId (1, env.now))
  | some (count, _) =>
    if count < env.maxWrapsPerKey then some (usage.set env.activeKeyId (count + 1, env.now)) else none

/-- The row with a new envelope. -/
def UserSecret.replace (row : UserSecret) (envelope : EncryptedEnvelope)
    (expiry : Option Time × String) : UserSecret :=
  { row with
    secret := { row.secret with envelope := envelope }
    tokenExpiresAt := expiry.1
    tokenExpirySource := expiry.2
    updatedAt := env.now
    validationStatus := "untested"
    validatedAt := none
    validationCheckId := none
    validationMode := "untested"
    validationScope := ""
    validationCode := some "connection_saved_untested"
    validationReference := some ""
    validationMessage := "Saved. Connection check pending."
    runtimeStatus := ""
    runtimeUpdatedAt := none }

/-- The rest of `_store_encrypted_value` for a bundle that differs. -/
def storeChanged (db : SecretTables) (userId provider : String) (encoded : Bytes)
    (expiry : Option Time × String) : Except SaveError (UserSecret × Bool) × SecretTables :=
  match reserveMasterKeyUse env db.keyUsage with
  | none => (.error (.storage
      "The active API-token encryption key reached its usage limit; rotate the key."), db)
  | some usage =>
    let stored := db.find userId provider
    let secretId := (stored.map fun row => row.secret.id).getD env.newId
    match encrypt env.aead env.ring userId secretId provider encoded env.activeKeyId env.drawn with
    | none => (.error .key, db)
    | some envelope =>
      let fresh : UserSecret := { secret := ⟨secretId, userId, provider, envelope⟩,
                                  createdAt := env.now, updatedAt := env.now }
      let row := (stored.getD fresh).replace env envelope expiry
      let attempts := if provider = "databricks" then
          db.attempts.map fun a => a.invalidate env.now userId
        else db.attempts
      (.ok (row, true), {
        secrets := match stored with
          | some _ => db.secrets.map fun other => if other.secret.id = secretId then row else other
          | none => db.secrets ++ [row]
        keyUsage := usage
        attempts := attempts
        catalogCache := db.catalogCache.filter fun cached =>
          ¬ (cached.userId = userId ∧ cached.provider = provider) })

/-- `_store_encrypted_value`. -/
def storeEncryptedValue (db : SecretTables) (userId provider : String) (encoded : Bytes)
    (expiry : Option Time × String) : Except SaveError (UserSecret × Bool) × SecretTables :=
  match db.find userId provider with
  | some stored =>
    match previousBundle (decrypt env.aead env.ring env.limits stored.secret) with
    | .error e => (.error e, db)
    | .ok (some current) =>
      if serialize current = encoded then (.ok (stored, false), db)
      else storeChanged env db userId provider encoded expiry
    | .ok none => storeChanged env db userId provider encoded expiry
  | none => storeChanged env db userId provider encoded expiry

/-- The bundle as it is stored for the provider. -/
def normalizedFor (db : SecretTables) (userId name : String) (normalized : Dict PyString PyString) :
    Except SaveError (Dict PyString PyString) :=
  if name = "databricks" then
    match db.find userId name with
    | some existing => do
      let previous ← previousBundle (decrypt env.aead env.ring env.limits existing.secret)
      return settleStartupPolicy previous normalized
    | none => .ok normalized
  else .ok normalized

/-- `store_user_credentials_if_changed`: the row and whether it has changed, and the tables. -/
def storeUserCredentialsIfChanged (db : SecretTables) (userId provider : String)
    (credentials : Dict PyString PyString) : Except SaveError (UserSecret × Bool) × SecretTables :=
  match env.requireProvider provider with
  | .error e => (.error e, db)
  | .ok name =>
    match env.validate name credentials with
    | .error e => (.error e, db)
    | .ok normalized =>
      match normalizedFor env db userId name normalized with
      | .error e => (.error e, db)
      | .ok normalized =>
        let encoded := serialize normalized
        if fieldMaxBytes < encoded.length then
          (.error (.value "Connection credentials are too large to store."), db)
        else
          match env.expiry normalized with
          | .error e => (.error e, db)
          | .ok expiry => storeEncryptedValue env db userId name encoded expiry

/-! ## Saving what is stored -/

section Unchanged

variable {env}

/-- The same connection keeps its startup policy. -/
theorem settleStartupPolicy_of_perm {previous normalized : Dict PyString PyString}
    (distinct : (previous.map Prod.fst).Nodup) (perm : previous.Perm normalized) :
    settleStartupPolicy (some previous) normalized = normalized := by
  have same : (identityFields.any fun name =>
      (previous.get name).getD [] ≠ (normalized.get name).getD []) = false := by
    rw [List.any_eq_false]
    intro name _
    simp [Dict.get_perm distinct perm name]
  rw [settleStartupPolicy, same]
  rfl

/-- A bundle that is the stored one leaves all tables as they are. -/
theorem store_unchanged {db : SecretTables} {userId provider name : String}
    {credentials normalized current : Dict PyString PyString} {stored : UserSecret}
    (known : env.requireProvider provider = .ok name)
    (valid : env.validate name credentials = .ok normalized)
    (found : db.find userId name = some stored)
    (opened : decrypt env.aead env.ring env.limits stored.secret = .ok current)
    (distinct : (current.map Prod.fst).Nodup) (same : current.Perm normalized) :
    (storeUserCredentialsIfChanged env db userId provider credentials).2 = db ∧
      ∀ result, (storeUserCredentialsIfChanged env db userId provider credentials).1 = .ok result →
        result = (stored, false) := by
  have settled : normalizedFor env db userId name normalized = .ok normalized := by
    unfold normalizedFor
    split_ifs
    · rw [found]
      dsimp only
      rw [opened]
      exact congrArg Except.ok (settleStartupPolicy_of_perm distinct same)
    · rfl
  have encoded := serialize_of_perm distinct same
  unfold storeUserCredentialsIfChanged
  rw [known]
  dsimp only
  rw [valid]
  dsimp only
  rw [settled]
  dsimp only
  split_ifs
  · exact ⟨rfl, by rintro _ ⟨⟩⟩
  · cases env.expiry normalized with
    | error e => exact ⟨rfl, by rintro _ ⟨⟩⟩
    | ok expiry =>
      dsimp only
      unfold storeEncryptedValue
      rw [found]
      dsimp only
      rw [opened]
      simp only [previousBundle]
      rw [if_pos encoded]
      refine ⟨rfl, ?_⟩
      rintro _ ⟨⟩
      rfl

end Unchanged

/-! ## Envelopes -/

/-- Fields of an envelope that are exchanged with those of another one. -/
def exchange (ciphertext nonce encryptedDataKey keyNonce : Bool) (e e' : EncryptedEnvelope) :
    EncryptedEnvelope where
  ciphertext := if ciphertext then e'.ciphertext else e.ciphertext
  nonce := if nonce then e'.nonce else e.nonce
  encryptedDataKey := if encryptedDataKey then e'.encryptedDataKey else e.encryptedDataKey
  keyNonce := if keyNonce then e'.keyNonce else e.keyNonce
  masterKeyId := e.masterKeyId

/-- `decrypt` raises `CredentialEnvelopeError`. -/
def Refused (aead : Aead Bytes) (ring : KeyRing) (limits : PyJson.Limits) (stored : StoredSecret) :
    Prop :=
  ∃ message, decrypt aead ring limits stored = .error (.envelope message)

/-- Envelopes come back in their row and only there, and saving what is stored changes nothing. -/
structure EnvelopesHold (aead : Aead Bytes) (ring : KeyRing) (limits : PyJson.Limits)
    (history : Set Encrypted) : Prop where
  roundTrip : ∀ w ∈ history, w.master ∈ held ring → ∀ c : Dict PyString PyString,
    (c.map Prod.fst).Nodup → JoinedDict c → w.plain = serialize c →
    ∃ e c', envelopeOf aead ring w = some e ∧
      decrypt aead ring limits (record w.owner e) = .ok c' ∧ c'.Perm c
  bound : ∀ w ∈ history, ∀ e, envelopeOf aead ring w = some e →
    ∀ row keyId, (row, keyId) ≠ (w.owner, e.masterKeyId) →
    Refused aead ring limits (record row { e with masterKeyId := keyId })
  exchanged : ∀ a ∈ history, ∀ b ∈ history, ∀ e e', envelopeOf aead ring a = some e →
    envelopeOf aead ring b = some e' → ∀ i j k l, exchange i j k l e e' ≠ e →
    record a.owner (exchange i j k l e e') ≠ record b.owner e' →
    Refused aead ring limits (record a.owner (exchange i j k l e e'))
  injective : ∀ c c' : Dict PyString PyString, (c.map Prod.fst).Nodup → (c'.map Prod.fst).Nodup →
    JoinedDict c → JoinedDict c' → (serialize c = serialize c' ↔ c.Perm c')
  unchanged : ∀ (env : SaveEnv) (db : SecretTables) (userId provider name : String)
    (credentials normalized current : Dict PyString PyString) (stored : UserSecret),
    env.requireProvider provider = .ok name → env.validate name credentials = .ok normalized →
    db.find userId name = some stored →
    decrypt env.aead env.ring env.limits stored.secret = .ok current →
    (current.map Prod.fst).Nodup → current.Perm normalized →
    (storeUserCredentialsIfChanged env db userId provider credentials).2 = db ∧
      ∀ result, (storeUserCredentialsIfChanged env db userId provider credentials).1 = .ok result →
        result = (stored, false)

section Hold

variable {aead : Aead Bytes} {ring : KeyRing} {limits : PyJson.Limits} {history : Set Encrypted}

theorem exchange_ofFields (i j k l : Bool) (f g : Sealing.Fields Bytes) (m n : String) :
    exchange i j k l (ofFields f m) (ofFields g n) = ofFields (Sealing.mix i j k l f g) m := by
  simp only [exchange, ofFields, Sealing.mix, EncryptedEnvelope.mk.injEq, and_true]
  refine ⟨?_, ?_, ?_, ?_⟩ <;> split_ifs <;> rfl

/-- Envelopes hold, with room for two nested JSON objects. -/
theorem credential_envelopes_hold (fresh : Sealing.Fresh history)
    (authentic : aead.Authentic (Sealing.secrets (masterKey ring) (held ring) history)
      (Sealing.sealings labels (masterKey ring) history)) (deep : 2 ≤ limits.depth) :
    EnvelopesHold aead ring limits history where
  roundTrip w hw holds c distinct joined plain := by
    refine ⟨_, sortKeys c, envelopeOf_eq holds, ?_, PyJson.sortKeys_perm c⟩
    rw [decrypt_record holds, Sealing.unwrap_wrap authentic hw, Option.bind_some, plain, serialize,
      decodeUtf8_utf8]
    exact parseCredentials_serialize deep distinct joined
  bound w hw e he row keyId other := by
    rw [envelopeOf_eq (held_of_envelopeOf he)] at he
    cases he
    rcases decrypt_cases row (Sealing.wrap aead labels (masterKey ring) w) keyId with
      raised | ⟨holds, plain, opened⟩
    · exact raised
    · refine absurd ?_ other
      obtain ⟨rfl, rfl⟩ := Sealing.owner_of_unwrap fresh authentic hw holds opened
      rfl
  exchanged a ha b hb e e' he he' i j k l changed otherRow := by
    have holds := held_of_envelopeOf he
    rw [envelopeOf_eq holds] at he
    rw [envelopeOf_eq (held_of_envelopeOf he')] at he'
    cases he
    cases he'
    rw [exchange_ofFields] at changed otherRow ⊢
    rcases decrypt_cases a.owner (Sealing.mix i j k l (Sealing.wrap aead labels (masterKey ring) a)
      (Sealing.wrap aead labels (masterKey ring) b)) a.master with raised | ⟨-, plain, opened⟩
    · exact raised
    · rcases Sealing.mix_of_unwrap fresh authentic ha hb holds opened with same | ⟨owner, master, same⟩
      · exact absurd (congrArg (ofFields · a.master) same) changed
      · refine absurd ?_ otherRow
        rw [same, owner, master]
  injective c c' distinct distinct' joined joined' :=
    serialize_eq_iff distinct distinct' joined joined'
  unchanged _ _ _ _ _ _ _ _ _ known valid found opened distinct same :=
    store_unchanged known valid found opened distinct same

end Hold

/-! ## One row -/

section Sample

def sampleRing : KeyRing := ⟨[("v1", List.replicate 32 1)], by decide⟩

def sampleRow : RowId :=
  ⟨"u1", "s1", "databricks", by decide +kernel, by decide +kernel, by decide +kernel⟩

def sampleEncrypted (plain : Bytes) : Encrypted := ⟨sampleRow, "v1", plain, [2], [3], [4]⟩

/-- A cipher that opens what was sealed for the row. -/
def sampleAead (plain : Bytes) : Aead Bytes where
  encrypt _ _ text _ := text
  decrypt key nonce text data :=
    let s : Sealing.Sealed Bytes := ⟨key, nonce, text, data⟩
    if s = (sampleEncrypted plain).valueSeal labels ∨
        s = (sampleEncrypted plain).keySeal labels (masterKey sampleRing) then some text else none

theorem sampleAead_authentic (plain : Bytes) : (sampleAead plain).Authentic
    (Sealing.secrets (masterKey sampleRing) (held sampleRing) {sampleEncrypted plain})
    (Sealing.sealings labels (masterKey sampleRing) {sampleEncrypted plain}) where
  opens := by
    rintro s ⟨w, rfl, kind⟩
    exact if_pos kind
  only := by
    intro key _ nonce text data result h
    simp only [sampleAead] at h
    split_ifs at h with sealed_
    cases h
    exact ⟨_, ⟨_, rfl, sealed_⟩, rfl, rfl⟩

theorem sampleEncrypted_fresh (plain : Bytes) : Sealing.Fresh {sampleEncrypted plain} where
  dataKey := by
    rintro w rfl w' rfl _
    rfl
  keyNonce := by
    rintro w rfl w' rfl _
    rfl

theorem sampleEncrypted_held (plain : Bytes) : (sampleEncrypted plain).master ∈ held sampleRing := by
  have found : (sampleRing.keys.get "v1").isSome = true := by decide +kernel
  exact found

/-- A token. -/
def sampleBundle : Dict PyString PyString := [(ofString "token", ofString "t")]

theorem credential_envelopes_hold_sample :
    ∃ e c', envelopeOf (sampleAead (serialize sampleBundle)) sampleRing
        (sampleEncrypted (serialize sampleBundle)) = some e ∧
      decrypt (sampleAead (serialize sampleBundle)) sampleRing ⟨4300, 2⟩ (record sampleRow e) = .ok c' ∧
        c'.Perm sampleBundle := by
  refine (credential_envelopes_hold (sampleEncrypted_fresh _) (sampleAead_authentic _) le_rfl).roundTrip
    (sampleEncrypted (serialize sampleBundle)) rfl (sampleEncrypted_held _) sampleBundle (by decide) ?_ rfl
  intro e he
  rw [sampleBundle, List.mem_singleton] at he
  subst he
  exact ⟨PyJson.joined_ofString _, PyJson.joined_ofString _⟩

/-- A token of two surrogates that make a pair. -/
def splitBundle : Dict PyString PyString := [(ofString "token", [⟨55357, by decide⟩, ⟨56832, by decide⟩])]

/-- The token comes back as one character. -/
theorem split_pair_is_joined :
    ¬ ∀ (aead : Aead Bytes) (ring : KeyRing) (limits : PyJson.Limits) (history : Set Encrypted),
      2 ≤ limits.depth → Sealing.Fresh history →
      aead.Authentic (Sealing.secrets (masterKey ring) (held ring) history)
        (Sealing.sealings labels (masterKey ring) history) →
      ∀ w ∈ history, w.master ∈ held ring → ∀ c : Dict PyString PyString,
        (c.map Prod.fst).Nodup → w.plain = serialize c →
        ∃ e c', envelopeOf aead ring w = some e ∧
          decrypt aead ring limits (record w.owner e) = .ok c' ∧ c'.Perm c := by
  intro h
  have holds := sampleEncrypted_held (serialize splitBundle)
  obtain ⟨e, c', sealed_, opened, perm⟩ := h _ sampleRing ⟨4300, 2⟩ _ le_rfl (sampleEncrypted_fresh _)
    (sampleAead_authentic _) (sampleEncrypted (serialize splitBundle)) rfl holds splitBundle (by decide)
    rfl
  rw [envelopeOf_eq holds, Option.some.injEq] at sealed_
  subst sealed_
  have joined : parseCredentials ⟨4300, 2⟩ (String.ofList (serializeText splitBundle)) =
      .ok [(ofString "token", [128512])] := by
    decide +kernel
  rw [decrypt_record holds, Sealing.unwrap_wrap (sampleAead_authentic _) rfl, Option.bind_some,
    sampleEncrypted, serialize, decodeUtf8_utf8] at opened
  dsimp only at opened
  rw [joined] at opened
  cases opened
  exact absurd (List.perm_singleton.1 perm) (by decide)

end Sample

end Credentials

end DataMover
