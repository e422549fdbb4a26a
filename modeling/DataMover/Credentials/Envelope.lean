import DataMover.Sealing
import DataMover.Text.Base64
import DataMover.Text.PyJson
import DataMover.Text.Utf8

/-!
# Credential envelopes

`CredentialEnvelope`: the text of a bundle of credentials is sealed under a key of its own, and this key
under a key of the ring.  Both seals carry the user, the id and the provider of the row, so an envelope
opens in its own row only.
-/

namespace DataMover

namespace Credentials

open PyJson (PyString ofString Joined JoinedDict dumpsDict dumpsObject dumpsString sortKeys)
open Sealing (Aead)

/-! ## The model -/

/-- `CREDENTIAL_FORMAT`. -/
def credentialFormat : String := "relay-credentials-v1"

/-- What `decrypt` raises: `CredentialEnvelopeError`, or what it lets through of `json.loads`, a
`ValueError` that is no `JSONDecodeError` or a `RecursionError`. -/
inductive DecryptError where
  | envelope (message : String)
  | value (message : String)
  | recursion
  deriving DecidableEq

/-- `EncryptedEnvelope`. -/
@[ext] structure EncryptedEnvelope where
  ciphertext : String
  nonce : String
  encryptedDataKey : String
  keyNonce : String
  masterKeyId : String
  deriving DecidableEq

/-- The columns of a row of `user_secrets` that `decrypt` reads. -/
structure StoredSecret where
  id : String
  userId : String
  provider : String
  envelope : EncryptedEnvelope
  deriving DecidableEq

/-- `encode`. -/
def encode (value : Bytes) : String := String.ofList (Base64.encode value)

/-- `decode`. -/
def decode (value : String) : Option Bytes := Base64.decode value.toList

/-- `CredentialEnvelope.associated_data`. -/
def associatedData (userId secretId provider : String) : Bytes :=
  utf8 ("access-registry:user-secret:v1:" ++ userId ++ ":" ++ secretId ++ ":" ++ provider)

/-- The associated data of the value. -/
def valueData (userId secretId provider : String) : Bytes :=
  associatedData userId secretId provider ++ utf8 ":value"

/-- The associated data of its key. -/
def keyData (userId secretId provider keyId : String) : Bytes :=
  associatedData userId secretId provider ++ utf8 ":data-key:" ++ utf8 keyId

/-- `json.dumps({"format": ..., "credentials": credentials}, separators=(",", ":"), sort_keys=True)`. -/
def serializeText (credentials : Dict PyString PyString) : List Char :=
  dumpsObject [(ofString "format", dumpsString (ofString credentialFormat)),
    (ofString "credentials", dumpsDict credentials)]

/-- `CredentialEnvelope.serialize`. -/
def serialize (credentials : Dict PyString PyString) : Bytes :=
  utf8 (String.ofList (serializeText credentials))

/-- `settings.api_token_key_ring`: keys of 32 bytes. -/
structure KeyRing where
  keys : Dict String Bytes
  length : ∀ e ∈ keys, e.2.length = 32

/-- What `encrypt` draws: `AESGCM.generate_key` and twice `secrets.token_bytes(12)`. -/
structure Drawn where
  dataKey : Bytes
  valueNonce : Bytes
  keyNonce : Bytes

variable (aead : Aead Bytes) (ring : KeyRing) (limits : PyJson.Limits)

/-- `CredentialEnvelope.encrypt`; `none` is the `KeyError` for a key id that is not in the ring. -/
def encrypt (userId secretId provider : String) (plaintext : Bytes) (keyId : String) (drawn : Drawn) :
    Option EncryptedEnvelope :=
  (ring.keys.get keyId).map fun masterKey => {
    ciphertext := encode
      (aead.encrypt drawn.dataKey drawn.valueNonce plaintext (valueData userId secretId provider))
    nonce := encode drawn.valueNonce
    encryptedDataKey := encode
      (aead.encrypt masterKey drawn.keyNonce drawn.dataKey (keyData userId secretId provider keyId))
    keyNonce := encode drawn.keyNonce
    masterKeyId := keyId }

/-- The first `try` of `decrypt`; `none` is `InvalidTag`, `UnicodeDecodeError` or `ValueError`. -/
def openEnvelope (masterKey : Bytes) (stored : StoredSecret) : Option String := do
  let keyNonce ← decode stored.envelope.keyNonce
  let encryptedDataKey ← decode stored.envelope.encryptedDataKey
  let dataKey ← aead.decrypt masterKey keyNonce encryptedDataKey
    (keyData stored.userId stored.id stored.provider stored.envelope.masterKeyId)
  let nonce ← decode stored.envelope.nonce
  let ciphertext ← decode stored.envelope.ciphertext
  let plaintext ← aead.decrypt dataKey nonce ciphertext
    (valueData stored.userId stored.id stored.provider)
  decodeUtf8 plaintext

/-- The members of an object as a dictionary of strings. -/
def stringDict (members : List (PyString × PyJson.Json)) : Option (Dict PyString PyString) :=
  members.mapM fun e =>
    match e.2 with
    | .string s => some (e.1, s)
    | _ => none

/-- What `decrypt` makes of a text. -/
def parseCredentials (decoded : String) : Except DecryptError (Dict PyString PyString) :=
  match PyJson.loads limits decoded with
  -- a plain token from before structured credentials
  | .error .decode => .ok [(ofString "token", ofString decoded)]
  -- the `except` clause names `JSONDecodeError` only
  | .error (.value message) => .error (.value message)
  | .error .recursion => .error .recursion
  | .ok (.object payload) =>
    match Dict.get payload (ofString "format") with
    | some (.string format) =>
      if format = ofString credentialFormat then
        match Dict.get payload (ofString "credentials") with
        | some (.object members) =>
          match stringDict members with
          | some credentials => .ok credentials
          | none => .error (.envelope "The stored credential payload is invalid.")
        | _ => .error (.envelope "The stored credential payload is invalid.")
      else .error (.envelope "The stored credential format is not supported.")
    | _ => .error (.envelope "The stored credential format is not supported.")
  | .ok _ => .error (.envelope "The stored credential format is not supported.")

example : parseCredentials ⟨4300, 2⟩ "[[[]]]" = .error .recursion := by decide +kernel

/-- `CredentialEnvelope.decrypt`. -/
def decrypt (stored : StoredSecret) : Except DecryptError (Dict PyString PyString) :=
  match ring.keys.get stored.envelope.masterKeyId with
  | none | some [] => .error (.envelope "The credential encryption key is unavailable.")
  | some masterKey =>
    match openEnvelope aead masterKey stored with
    | none => .error (.envelope "The stored credentials could not be decrypted.")
    | some decoded => parseCredentials limits decoded

/-! ## Texts -/

theorem sortKeys_pair {β : Type} (a b : β) :
    sortKeys [(ofString "format", a), (ofString "credentials", b)] =
      [(ofString "credentials", b), (ofString "format", a)] := by
  have order : ¬ ofString "format" ≤ ofString "credentials" := by decide
  simp [sortKeys, order]

theorem serializeText_eq (c : Dict PyString PyString) : serializeText c =
    '{' :: PyJson.dumpsMembers [(ofString "credentials", dumpsDict c),
      (ofString "format", dumpsString (ofString credentialFormat))] := by
  rw [serializeText, dumpsObject, sortKeys_pair]

theorem stringDict_stringMembers (c : Dict PyString PyString) :
    stringDict (PyJson.stringMembers c) = some c := by
  induction c with
  | nil => rfl
  | cons e c ih =>
    rw [stringDict, PyJson.stringMembers] at ih ⊢
    rw [List.map_cons, List.mapM_cons, ih]
    rfl

/-- The text of a bundle is read as this bundle, in the order of its keys. -/
theorem parseCredentials_serialize {limits : PyJson.Limits} (deep : 2 ≤ limits.depth)
    {c : Dict PyString PyString} (distinct : (c.map Prod.fst).Nodup) (joined : JoinedDict c) :
    parseCredentials limits (String.ofList (serializeText c)) = .ok (sortKeys c) := by
  have bundle : PyJson.Reads ⟨limits.digits, 1⟩ (c.length + 2) (dumpsDict c)
      (.object (PyJson.stringMembers (sortKeys c))) :=
    @PyJson.reads_dumpsDict ⟨limits.digits, 0⟩ c distinct joined
  have format : PyJson.Reads ⟨limits.digits, 1⟩ (c.length + 2)
      (dumpsString (ofString credentialFormat)) (.string (ofString credentialFormat)) :=
    (@PyJson.reads_dumpsString ⟨limits.digits, 0⟩ _ (PyJson.joined_ofString _)).mono
      (Nat.zero_le 1) (by omega)
  have members : List.Forall₂ (PyJson.ReadsMember ⟨limits.digits, 1⟩ (c.length + 2))
      [(ofString "credentials", dumpsDict c),
        (ofString "format", dumpsString (ofString credentialFormat))]
      [(ofString "credentials", .object (PyJson.stringMembers (sortKeys c))),
        (ofString "format", .string (ofString credentialFormat))] :=
    .cons ⟨rfl, PyJson.joined_ofString _, bundle⟩
      (.cons ⟨rfl, PyJson.joined_ofString _, format⟩ .nil)
  have keys : [ofString "credentials", ofString "format"].Nodup := by decide
  have reads := PyJson.reads_members members keys
  have read : PyJson.loads limits (String.ofList (serializeText c)) = .ok (.object
      [(ofString "credentials", .object (PyJson.stringMembers (sortKeys c))),
        (ofString "format", .string (ofString credentialFormat))]) := by
    rw [serializeText_eq]
    refine PyJson.loads_of_reads reads deep (by simp) ?_
    have long := PyJson.length_le_dumpsDict c
    simp only [PyJson.dumpsMembers, List.length_cons, List.length_append, List.length_nil]
    omega
  have other : ofString "format" ≠ ofString "credentials" := by decide
  rw [parseCredentials, read]
  simp only [Dict.get_cons, if_neg other, if_true, stringDict_stringMembers]

theorem serialize_of_perm {c c' : Dict PyString PyString} (distinct : (c.map Prod.fst).Nodup)
    (perm : c.Perm c') : serialize c = serialize c' := by
  rw [serialize, serialize, serializeText_eq, serializeText_eq, PyJson.dumpsDict_eq,
    PyJson.dumpsDict_eq, PyJson.sortKeys_eq distinct perm]

/-- Bundles have one text exactly when they have the same items. -/
theorem serialize_eq_iff {c c' : Dict PyString PyString} (distinct : (c.map Prod.fst).Nodup)
    (distinct' : (c'.map Prod.fst).Nodup) (joined : JoinedDict c) (joined' : JoinedDict c') :
    serialize c = serialize c' ↔ c.Perm c' := by
  constructor
  · intro same
    have read := @parseCredentials_serialize ⟨0, 2⟩ le_rfl c distinct joined
    rw [utf8_injective same, parseCredentials_serialize le_rfl distinct' joined'] at read
    have sorted : sortKeys c' = sortKeys c := Except.ok.inj read
    exact (PyJson.sortKeys_perm c).symm.trans (sorted ▸ PyJson.sortKeys_perm c')
  · exact serialize_of_perm distinct

/-! ## Rows -/

/-- A row of `user_secrets`, none of whose names has a colon. -/
structure RowId where
  userId : String
  secretId : String
  provider : String
  user_clean : ':' ∉ userId.toList
  secret_clean : ':' ∉ secretId.toList
  provider_clean : ':' ∉ provider.toList
  deriving DecidableEq

/-- The associated data of a row, with what follows it. -/
def labelText (row : RowId) (rest : String) : String :=
  "access-registry:user-secret:v1:" ++ row.userId ++ ":" ++ row.secretId ++ ":" ++ row.provider ++
    (":" ++ rest)

theorem valueData_eq (row : RowId) :
    valueData row.userId row.secretId row.provider = utf8 (labelText row "value") := by
  have start : ":" ++ "value" = ":value" := by decide +kernel
  unfold valueData associatedData labelText
  rw [← utf8_append, start]

theorem keyData_eq (row : RowId) (keyId : String) :
    keyData row.userId row.secretId row.provider keyId = utf8 (labelText row ("data-key:" ++ keyId)) := by
  have first : ":" ++ "data-key:" = ":data-key:" := by decide +kernel
  have start : ":" ++ ("data-key:" ++ keyId) = ":data-key:" ++ keyId := by
    rw [← String.append_assoc, first]
  unfold keyData associatedData labelText
  rw [List.append_assoc, ← utf8_append, ← utf8_append, start]

theorem split_at_first {α : Type} {mark : α} {xs ys us vs : List α} (hx : mark ∉ xs) (hu : mark ∉ us)
    (h : xs ++ mark :: ys = us ++ mark :: vs) : xs = us ∧ ys = vs := by
  induction xs generalizing us with
  | nil =>
    cases us with
    | nil => exact ⟨rfl, (List.cons.inj h).2⟩
    | cons u us => exact absurd ((List.cons.inj h).1 ▸ List.mem_cons_self) hu
  | cons x xs ih =>
    cases us with
    | nil => exact absurd ((List.cons.inj h).1 ▸ List.mem_cons_self) hx
    | cons u us =>
      obtain ⟨rfl, rest⟩ := List.cons.inj h
      obtain ⟨rfl, same⟩ := ih (fun m => hx (List.mem_cons_of_mem _ m))
        (fun m => hu (List.mem_cons_of_mem _ m)) rest
      exact ⟨rfl, same⟩

/-- A label determines the row and what follows. -/
theorem labelText_inj {row row' : RowId} {rest rest' : String}
    (h : labelText row rest = labelText row' rest') : row = row' ∧ rest = rest' := by
  have colon : ":".toList = [':'] := by decide +kernel
  have chars := congrArg String.toList h
  unfold labelText at chars
  simp only [String.toList_append] at chars
  rw [colon] at chars
  generalize "access-registry:user-secret:v1:".toList = start at chars
  simp only [List.append_assoc, List.append_cancel_left_eq, List.singleton_append] at chars
  obtain ⟨user, chars⟩ := split_at_first row.user_clean row'.user_clean chars
  obtain ⟨secret, chars⟩ := split_at_first row.secret_clean row'.secret_clean chars
  obtain ⟨provider, chars⟩ := split_at_first row.provider_clean row'.provider_clean chars
  refine ⟨?_, String.toList_injective chars⟩
  cases row
  cases row'
  simp only [RowId.mk.injEq]
  exact ⟨String.toList_injective user, String.toList_injective secret,
    String.toList_injective provider⟩

/-- The associated data of the two seals. -/
def labels : Sealing.Labels RowId String Bytes where
  value row := valueData row.userId row.secretId row.provider
  key row keyId := keyData row.userId row.secretId row.provider keyId
  value_injective row row' h := by
    dsimp only at h
    rw [valueData_eq, valueData_eq] at h
    exact (labelText_inj (utf8_injective h)).1
  key_injective {row row' keyId keyId'} h := by
    rw [keyData_eq, keyData_eq] at h
    obtain ⟨same, ends⟩ := labelText_inj (utf8_injective h)
    have chars := congrArg String.toList ends
    rw [String.toList_append, String.toList_append, List.append_cancel_left_eq] at chars
    exact ⟨same, String.toList_injective chars⟩
  value_ne_key row row' keyId h := by
    rw [valueData_eq, keyData_eq] at h
    have chars := congrArg String.toList (labelText_inj (utf8_injective h)).2
    have value : "value".toList = ['v', 'a', 'l', 'u', 'e'] := by decide +kernel
    have key : "data-key:".toList = ['d', 'a', 't', 'a', '-', 'k', 'e', 'y', ':'] := by decide +kernel
    rw [String.toList_append, value, key] at chars
    exact absurd (List.cons.inj chars).1 (by decide)

/-! ## Records -/

/-- A bundle that was encrypted for a row, with what was drawn for it. -/
abbrev Encrypted := Sealing.Wrapped RowId String Bytes

/-- The stored row of an envelope. -/
def record (row : RowId) (envelope : EncryptedEnvelope) : StoredSecret :=
  ⟨row.secretId, row.userId, row.provider, envelope⟩

/-- `CredentialEnvelope.encrypt` for a row. -/
def envelopeOf (w : Encrypted) : Option EncryptedEnvelope :=
  encrypt aead ring w.owner.userId w.owner.secretId w.owner.provider w.plain w.master
    ⟨w.dataKey, w.valueNonce, w.keyNonce⟩

def masterKey (keyId : String) : Bytes := (ring.keys.get keyId).getD []

/-- The ids of the keys in the ring. -/
def held : Set String := {keyId | (ring.keys.get keyId).isSome}

/-- The columns of an envelope from its fields. -/
def ofFields (f : Sealing.Fields Bytes) (keyId : String) : EncryptedEnvelope :=
  ⟨encode f.text, encode f.nonce, encode f.sealedKey, encode f.keyNonce, keyId⟩

section Records

variable {aead : Aead Bytes} {ring : KeyRing} {limits : PyJson.Limits}

theorem decode_encode (data : Bytes) : decode (encode data) = some data := by
  rw [decode, encode, String.toList_ofList, Base64.decode_encode]

theorem envelopeOf_eq {w : Encrypted} (h : w.master ∈ held ring) :
    envelopeOf aead ring w =
      some (ofFields (Sealing.wrap aead labels (masterKey ring) w) w.master) := by
  obtain ⟨key, found⟩ := Option.isSome_iff_exists.1 h
  rw [envelopeOf, encrypt, found, Option.map_some]
  simp only [ofFields, Sealing.wrap, Aead.text, Sealing.Wrapped.valueSeal, Sealing.Wrapped.keySeal,
    labels, masterKey, found, Option.getD_some]

theorem held_of_envelopeOf {w : Encrypted} {e : EncryptedEnvelope}
    (h : envelopeOf aead ring w = some e) : w.master ∈ held ring := by
  obtain ⟨key, found, -⟩ := Option.map_eq_some_iff.1 h
  exact Option.isSome_iff_exists.2 ⟨key, found⟩

theorem decrypt_of_not_held {stored : StoredSecret} (h : stored.envelope.masterKeyId ∉ held ring) :
    decrypt aead ring limits stored =
      .error (.envelope "The credential encryption key is unavailable.") := by
  have missing : ring.keys.get stored.envelope.masterKeyId = none :=
    Option.not_isSome_iff_eq_none.1 h
  rw [decrypt, missing]

/-- `decrypt` opens the two seals and reads the text. -/
theorem decrypt_record {row : RowId} {f : Sealing.Fields Bytes} {keyId : String}
    (h : keyId ∈ held ring) : decrypt aead ring limits (record row (ofFields f keyId)) =
      match (Sealing.unwrap aead labels (masterKey ring) row keyId f).bind decodeUtf8 with
      | none => .error (.envelope "The stored credentials could not be decrypted.")
      | some decoded => parseCredentials limits decoded := by
  obtain ⟨key, found⟩ := Option.isSome_iff_exists.1 h
  have long := ring.length _ (Dict.mem_of_get found)
  have opened : openEnvelope aead key (record row (ofFields f keyId)) =
      (Sealing.unwrap aead labels (masterKey ring) row keyId f).bind decodeUtf8 := by
    simp only [openEnvelope, record, ofFields, decode_encode, Option.bind_eq_bind, Option.bind_some,
      Sealing.unwrap, labels, masterKey, found, Option.getD_some, Option.bind_assoc]
  rw [decrypt]
  simp only [record, ofFields, found] at opened ⊢
  cases key with
  | nil => cases long
  | cons b key =>
    dsimp only
    rw [opened]

/-- A row whose envelope does not open raises `CredentialEnvelopeError`. -/
theorem decrypt_cases (row : RowId) (f : Sealing.Fields Bytes) (keyId : String) :
    (∃ message, decrypt aead ring limits (record row (ofFields f keyId)) = .error (.envelope message)) ∨
      (keyId ∈ held ring ∧
        ∃ plain, Sealing.unwrap aead labels (masterKey ring) row keyId f = some plain) := by
  by_cases holds : keyId ∈ held ring
  · rw [decrypt_record holds]
    cases opened : Sealing.unwrap aead labels (masterKey ring) row keyId f with
    | none => exact .inl ⟨_, rfl⟩
    | some plain => exact .inr ⟨holds, plain, rfl⟩
  · have absent : (record row (ofFields f keyId)).envelope.masterKeyId ∉ held ring := holds
    exact .inl ⟨_, decrypt_of_not_held absent⟩

end Records

end Credentials

end DataMover
