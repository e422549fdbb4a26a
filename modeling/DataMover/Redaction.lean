import DataMover.Dict
import DataMover.Engine.Transfer
import DataMover.Nested

/-!
# Redaction of payloads

`redact_mapping` replaces what a payload stores under a secret name, at any depth, and passes every other
text through `redact_text`.  Two payloads that differ only in secret values are redacted to the same
payload.
-/

namespace DataMover

open Nested

/-! ## The functions -/

/-- A value that is no container: a text, or anything that `_redact_value` returns as it is. -/
inductive Scalar (S : Type) where
  | text (s : String)
  | other (x : S)
  deriving DecidableEq

/-- `str(key)`, `text.casefold()` and `redact_text`. -/
structure Redactor (K : Type) where
  str : K → String
  casefold : String → String
  redactText : String → String

/-- `SENTINEL_REPLACEMENT`. -/
def sentinelReplacement : String := "[redacted]"

/-- The names that are secret as a whole. -/
def secretNames : List String := [
  "token", "accesstoken", "authtoken", "cookie", "password", "passwd", "pwd", "secret", "secretkey",
  "apikey", "accesskey", "clientsecret", "authorization", "idtoken", "privatekey", "refreshtoken",
  "sessioncookie", "sessiontoken", "setcookie", "credential", "credentials", "dsn", "ciphertext"]

/-- The endings that make a name secret. -/
def secretEndings : List String := [
  "token", "secret", "password", "credential", "cookie", "apikey", "accesskey", "privatekey"]

namespace Redactor

variable {K S : Type} [DecidableEq K] (r : Redactor K)

/-- `_secret_key`. -/
def secretKey (key : String) : Bool :=
  let folded := (r.casefold key).toList.filter fun c => !(c = '-' || c = '_' || isSpace c)
  String.ofList folded ∈ secretNames || secretEndings.any fun ending => ending.toList.isSuffixOf folded

/-- The value of a secret key. -/
def sentinel : Nested K (Scalar S) := .leaf (.text sentinelReplacement)

/-- `_redact_value` of a value that is no container. -/
def redactScalar : Scalar S → Scalar S
  | .text s => .text (r.redactText s)
  | .other x => .other x

mutual

/-- `_redact_value`. -/
def redactValue : Nested K (Scalar S) → Nested K (Scalar S)
  | .leaf a => .leaf (r.redactScalar a)
  | .mapping entries => .mapping (redactEntries entries [])
  | .sequence items => .sequence (redactItems items)

/-- The loop of `redact_mapping`. -/
def redactEntries : List (K × Nested K (Scalar S)) → Dict K (Nested K (Scalar S)) →
    Dict K (Nested K (Scalar S))
  | [], redacted => redacted
  | (key, value) :: entries, redacted =>
    redactEntries entries
      (Dict.set redacted key (if r.secretKey (r.str key) then sentinel else redactValue value))

def redactItems : List (Nested K (Scalar S)) → List (Nested K (Scalar S))
  | [] => []
  | item :: items => redactValue item :: redactItems items

end

/-- `redact_mapping`. -/
def redactMapping : Option (Dict K (Nested K (Scalar S))) → Dict K (Nested K (Scalar S))
  | none => []
  | some payload => if payload = [] then [] else r.redactEntries payload []

/-- The value of the key is redacted as a whole. -/
def Secret (key : K) : Prop := r.secretKey (r.str key) = true

/-- What the loop writes for an entry. -/
def redactEntry (e : K × Nested K (Scalar S)) : K × Nested K (Scalar S) :=
  (e.1, if r.secretKey (r.str e.1) then sentinel else r.redactValue e.2)

/-! ## The loops -/

section Loops

variable {r} {entries : List (K × Nested K (Scalar S))}

theorem redactEntries_eq (d : Dict K (Nested K (Scalar S))) :
    r.redactEntries entries d = (entries.map r.redactEntry).foldl (fun d e => Dict.set d e.1 e.2) d := by
  induction entries generalizing d with
  | nil => rw [redactEntries, List.map_nil, List.foldl_nil]
  | cons e entries ih =>
    obtain ⟨key, value⟩ := e
    rw [redactEntries, ih, List.map_cons, List.foldl_cons]
    rfl

theorem redactItems_eq (items : List (Nested K (Scalar S))) :
    r.redactItems items = items.map r.redactValue := by
  induction items with
  | nil => rw [redactItems, List.map_nil]
  | cons item items ih => rw [redactItems, ih, List.map_cons]

theorem redactEntry_keys : (entries.map r.redactEntry).map Prod.fst = entries.map Prod.fst := by
  rw [List.map_map]
  rfl

theorem nodup_redactEntry (distinct : (entries.map Prod.fst).Nodup) :
    ((entries.map r.redactEntry).map Prod.fst).Nodup := by
  rwa [redactEntry_keys]

theorem redactMapping_some (distinct : (entries.map Prod.fst).Nodup) :
    r.redactMapping (some entries) = entries.map r.redactEntry := by
  have written : r.redactEntries entries [] = entries.map r.redactEntry := by
    rw [redactEntries_eq]
    exact Dict.ofItems_eq (nodup_redactEntry distinct)
  rw [redactMapping, written]
  split_ifs with empty
  · rw [empty, List.map_nil]
  · rfl

theorem redactValue_mapping (distinct : (entries.map Prod.fst).Nodup) :
    r.redactValue (.mapping entries) = .mapping (entries.map r.redactEntry) := by
  rw [redactValue, redactEntries_eq]
  exact congrArg _ (Dict.ofItems_eq (nodup_redactEntry distinct))

theorem redactValue_sequence (items : List (Nested K (Scalar S))) :
    r.redactValue (.sequence items) = .sequence (items.map r.redactValue) := by
  rw [redactValue, redactItems_eq]

/-- A mapping as a value, and as a payload. -/
theorem mapping_redactMapping (distinct : (entries.map Prod.fst).Nodup) :
    Nested.mapping (r.redactMapping (some entries)) = r.redactValue (.mapping entries) := by
  rw [redactMapping_some distinct, redactValue_mapping distinct]

theorem mem_redactEntry {key : K} {v : Nested K (Scalar S)}
    (mem : (key, v) ∈ entries.map r.redactEntry) :
    ∃ t, (key, t) ∈ entries ∧ (r.Secret key ∧ v = sentinel ∨ ¬ r.Secret key ∧ v = r.redactValue t) := by
  obtain ⟨⟨k, t⟩, ht, same⟩ := List.mem_map.1 mem
  obtain ⟨rfl, rfl⟩ := Prod.mk.inj same
  refine ⟨t, ht, ?_⟩
  by_cases secret : r.Secret k
  · exact .inl ⟨secret, if_pos secret⟩
  · exact .inr ⟨secret, if_neg secret⟩

end Loops

/-! ## What redaction keeps and hides -/

section Values

variable {r} {t t' : Nested K (Scalar S)}

theorem distinct_redactValue (distinct : t.Distinct) : (r.redactValue t).Distinct := by
  induction t using Nested.induct with
  | leaf a => exact .leaf _
  | mapping entries ih =>
    cases distinct with
    | mapping keys children =>
      rw [redactValue_mapping keys]
      refine .mapping (nodup_redactEntry keys) fun e mem => ?_
      have entry : (e.1, e.2) ∈ entries.map r.redactEntry := mem
      obtain ⟨u, hu, ⟨-, same⟩ | ⟨-, same⟩⟩ := mem_redactEntry entry
      · rw [same]
        exact .leaf _
      · rw [same]
        exact ih _ hu (children _ hu)
  | sequence items ih =>
    cases distinct with
    | sequence children =>
      rw [redactValue_sequence]
      refine .sequence fun u mem => ?_
      obtain ⟨u, hu, rfl⟩ := List.mem_map.1 mem
      exact ih u hu (children u hu)

/-- Values that differ in secret values only are redacted to equal values. -/
theorem related_redactValue {order : List K → List K → Prop} (h : Related order r.Secret Eq t t')
    (distinct : t.Distinct) (distinct' : t'.Distinct) :
    Related order (fun _ => False) Eq (r.redactValue t) (r.redactValue t') := by
  induction h with
  | @leaf a b same =>
    rw [same]
    exact .leaf rfl
  | mapping keys values ih =>
    cases distinct with
    | mapping nodup children =>
      cases distinct' with
      | mapping nodup' children' =>
        rw [redactValue_mapping nodup, redactValue_mapping nodup']
        refine .mapping (by rwa [redactEntry_keys, redactEntry_keys]) fun key v v' mem mem' _ => ?_
        obtain ⟨u, hu, ⟨secret, rfl⟩ | ⟨plain, rfl⟩⟩ := mem_redactEntry mem <;>
          obtain ⟨u', hu', ⟨secret', rfl⟩ | ⟨plain', rfl⟩⟩ := mem_redactEntry mem'
        · exact .leaf rfl
        · exact absurd secret plain'
        · exact absurd secret' plain
        · exact ih key u u' hu hu' plain (children _ hu) (children' _ hu')
  | sequence length values ih =>
    cases distinct with
    | sequence children =>
      cases distinct' with
      | sequence children' =>
        rw [redactValue_sequence, redactValue_sequence]
        refine .sequence (by rwa [List.length_map, List.length_map]) fun i v v' at_i at_i' => ?_
        rw [List.getElem?_map] at at_i at_i'
        obtain ⟨u, hu, rfl⟩ := Option.map_eq_some_iff.1 at_i
        obtain ⟨u', hu', rfl⟩ := Option.map_eq_some_iff.1 at_i'
        exact ih i u u' hu hu' (children _ (List.mem_of_getElem? hu))
          (children' _ (List.mem_of_getElem? hu'))

/-- The keys and the lengths stay, and so do the leaves but for their texts. -/
theorem related_redacted (distinct : t.Distinct) :
    Related Eq r.Secret (fun a b => b = r.redactScalar a) t (r.redactValue t) := by
  induction t using Nested.induct with
  | leaf a =>
    rw [redactValue]
    exact .leaf rfl
  | mapping entries ih =>
    cases distinct with
    | mapping keys children =>
      rw [redactValue_mapping keys]
      refine .mapping redactEntry_keys.symm fun key u v hu mem plain => ?_
      obtain ⟨w, hw, ⟨secret, -⟩ | ⟨-, rfl⟩⟩ := mem_redactEntry mem
      · exact absurd secret plain
      · cases List.inj_on_of_nodup_map keys hu hw rfl
        exact ih _ hu (children _ hu)
  | sequence items ih =>
    cases distinct with
    | sequence children =>
      rw [redactValue_sequence]
      refine .sequence (List.length_map _).symm fun i u v hu hv => ?_
      rw [List.getElem?_map, hu] at hv
      cases hv
      have mem := List.mem_of_getElem? hu
      exact ih u mem (children u mem)

/-- A secret value is hidden at every depth. -/
theorem eq_sentinel_of_stored (distinct : t.Distinct) {key : K} {v : Nested K (Scalar S)}
    (stored : (r.redactValue t).Stored key v) (secret : r.Secret key) : v = sentinel := by
  induction t using Nested.induct with
  | leaf a =>
    rw [redactValue] at stored
    cases stored
  | mapping entries ih =>
    cases distinct with
    | mapping keys children =>
      rw [redactValue_mapping keys] at stored
      cases stored with
      | here mem =>
        obtain ⟨u, -, ⟨-, same⟩ | ⟨plain, -⟩⟩ := mem_redactEntry mem
        · exact same
        · exact absurd secret plain
      | entry mem inside =>
        obtain ⟨u, hu, ⟨-, rfl⟩ | ⟨-, rfl⟩⟩ := mem_redactEntry mem
        · cases inside
        · exact ih _ hu (children _ hu) inside
  | sequence items ih =>
    cases distinct with
    | sequence children =>
      rw [redactValue_sequence] at stored
      cases stored with
      | item mem inside =>
        obtain ⟨u, hu, rfl⟩ := List.mem_map.1 mem
        exact ih u hu (children u hu) inside

/-- A text outside secret values. -/
def Shows (r : Redactor K) (t : Nested K (Scalar S)) (s : String) : Prop :=
  ∃ keys, t.Leaf keys (.text s) ∧ ∀ key ∈ keys, ¬ r.Secret key

/-- Redacting twice, where redacting the texts twice changes nothing. -/
theorem redactValue_idempotent (distinct : t.Distinct)
    (texts : ∀ s, r.Shows t s → r.redactText (r.redactText s) = r.redactText s) :
    r.redactValue (r.redactValue t) = r.redactValue t := by
  induction t using Nested.induct with
  | leaf a =>
    cases a with
    | text s => simp only [redactValue, redactScalar, texts s ⟨[], .leaf _, nofun⟩]
    | other x => rfl
  | mapping entries ih =>
    cases distinct with
    | mapping keys children =>
      rw [redactValue_mapping keys, redactValue_mapping (nodup_redactEntry keys), List.map_map]
      refine congrArg _ (List.map_congr_left fun e mem => Prod.ext rfl ?_)
      by_cases secret : r.Secret e.1
      · exact (if_pos secret).trans (if_pos secret).symm
      · refine (if_neg secret).trans ?_
        have inner : (r.redactEntry e).2 = r.redactValue e.2 := if_neg secret
        rw [inner]
        refine ih e mem (children e mem) fun s ⟨below, found, plain⟩ => ?_
        exact texts s ⟨e.1 :: below, .entry mem found, List.forall_mem_cons.2 ⟨secret, plain⟩⟩
  | sequence items ih =>
    cases distinct with
    | sequence children =>
      rw [redactValue_sequence, redactValue_sequence, List.map_map]
      refine congrArg _ (List.map_congr_left fun u mem => ?_)
      exact ih u mem (children u mem) fun s ⟨below, found, plain⟩ =>
        texts s ⟨below, .item mem found, plain⟩

end Values

/-! ## Payloads -/

/-- A payload: dictionaries have each key once, at any depth. -/
@[ext]
structure Payload (K S : Type) where
  entries : Dict K (Nested K (Scalar S))
  distinct : (Nested.mapping entries).Distinct

/-- The payload as a value. -/
def Payload.value (p : Payload K S) : Nested K (Scalar S) := .mapping p.entries

/-- `redact_mapping(payload)`. -/
def redact (p : Payload K S) : Payload K S where
  entries := r.redactMapping (some p.entries)
  distinct := by
    cases p.distinct with
    | mapping keys children =>
      rw [mapping_redactMapping keys]
      exact distinct_redactValue p.distinct

/-- Redaction hides what secret keys store: payloads that are equal but for it become equal, as lists of
entries or up to their order; it leaves the sentinel; everything else keeps its keys, its lengths and its
leaves but for their texts; and a second redaction changes nothing where it changes no text. -/
theorem redaction_hides (r : Redactor K) (p : Payload K S) :
    (∀ q : Payload K S, Related Eq r.Secret Eq p.value q.value →
      (r.redact p).entries = (r.redact q).entries) ∧
    (∀ q : Payload K S, Related List.Perm r.Secret Eq p.value q.value →
      Related List.Perm (fun _ => False) Eq (r.redact p).value (r.redact q).value) ∧
    (∀ key v, (r.redact p).value.Stored key v → r.Secret key → v = sentinel) ∧
    Related Eq r.Secret (fun a b => b = r.redactScalar a) p.value (r.redact p).value ∧
    ((∀ s, r.Shows p.value s → r.redactText (r.redactText s) = r.redactText s) →
      r.redact (r.redact p) = r.redact p) := by
  have redacted (p : Payload K S) : (r.redact p).value = r.redactValue p.value := by
    cases p.distinct with
    | mapping keys children => exact mapping_redactMapping keys
  refine ⟨fun q h => ?_, fun q h => ?_, fun key v stored secret => ?_, ?_, fun texts => ?_⟩
  · have same := (related_redactValue h p.distinct q.distinct).eq
    rw [← redacted, ← redacted] at same
    exact Nested.mapping.inj same
  · rw [redacted, redacted]
    exact related_redactValue h p.distinct q.distinct
  · rw [redacted] at stored
    exact eq_sentinel_of_stored p.distinct stored secret
  · rw [redacted]
    exact related_redacted p.distinct
  · have twice : r.redactValue (r.redactValue p.value) = r.redactValue p.value :=
      redactValue_idempotent p.distinct texts
    rw [← redacted p, ← redacted] at twice
    exact Payload.ext (Nested.mapping.inj twice)

end Redactor

end DataMover
