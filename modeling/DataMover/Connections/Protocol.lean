import DataMover.Connections.Programs
import DataMover.Joint

/-!
# Concurrent calls on connections

Any number of saves, deletions, tests and listings over one database.  `ConnectionView` is what is
known of a call from its answers, and `connectionProtocol` says what its statements rely on: a
credential that was replaced or deleted is committed only when the cached catalog of its provider
has been dropped, and a test writes what it has found only after a claim, with the bundle of the
revision that it has claimed.
-/

namespace DataMover

namespace Connections

open ReadCommitted Program
open Credentials (UserSecret SaveError previousBundle)

/-! ## What is known of a call -/

/-- A claim: the row, its revision, and the check that has claimed it. -/
structure Claim where
  secretId : String
  revision : Time
  checkId : String
  deriving DecidableEq

/-- What is known of a call: whether it is a test, the locks and the lists of its transaction, the
rows of secrets that it has read, those that were deleted meanwhile, the providers whose credential
its transaction has replaced or deleted, the claim of its transaction and the committed one, and
whether it has written what a test has found. -/
structure ConnectionView where
  isTest : Bool := false
  /-- All answers were possible. -/
  Sane : Prop := True
  tx : Tx schema := {}
  loaded : List SecretRow := []
  gone : List String := []
  replaced : List (String × String) := []
  claiming : Option Claim := none
  claimed : Option Claim := none
  concluded : Bool := false

/-- The owner of a credential. -/
def SecretRow.owner (row : SecretRow) : String × String := (row.secret.userId, row.secret.provider)

/-- The columns of a credential that has just been saved. -/
def IsSaved (row : UserSecret) : Prop :=
  row.validationStatus = "untested" ∧ row.validationCheckId = none ∧
    row.tokenExpirySource ∉ reportedSources

/-- The change replaces or deletes a credential. -/
def SecretChange.replaces : SecretChange → Bool
  | save .. | delete => true
  | _ => false

namespace ConnectionView

variable (v : ConnectionView)

/-- The list that a call keeps up to date: the cached catalog of a provider. -/
def protects : (t : Table) → t.Query → Bool
  | .caches, (.of _ _ : CacheQuery) => true
  | _, _ => false

/-- The transaction is over without having committed. -/
def ended : ConnectionView := { v with tx := {}, replaced := [], claiming := none }

/-- The transaction has committed. -/
def committed : ConnectionView := { v.ended with claimed := v.claiming.or v.claimed }

/-- The row is not locked by the transaction. -/
def unlocked (id : String) : Bool := (v.tx.held ⟨.secrets, id⟩).isNone

/-- Rows of secrets were read; of two rows of one provider only one is there at a time. -/
def read (rows : List SecretRow) : ConnectionView :=
  let seen := rows.filter fun row => v.unlocked row.secret.id
  { v with
    loaded := seen ++ v.loaded
    gone := ((v.loaded.filter fun row => v.unlocked row.secret.id && seen.any fun other =>
      decide (other.owner = row.owner ∧ other.secret.id ≠ row.secret.id)).map
        fun row => row.secret.id) ++ v.gone }

/-- A row of secrets was updated. -/
def updated (row : SecretRow) (change : SecretChange) : ConnectionView :=
  { v with
    replaced := if change.replaces then row.owner :: v.replaced else v.replaced
    claiming :=
      match change with
      | .claim checkId => some ⟨row.secret.id, row.updatedAt, checkId⟩
      | _ => v.claiming
    concluded :=
      match change with
      | .conclude _ => true
      | _ => v.concluded }

/-- What an answer says beyond the locks and the lists. -/
def note : (s : ConnectionStmt) → ConnectionReply s → ConnectionView
  | .select .secrets _, reply => v.read reply.value
  | .update .secrets _ _ change, reply =>
    match (show Option SecretRow from reply.value) with
    | some row => v.updated row change
    | none => v
  | .insert .secrets row, reply =>
    if (show Bool from reply.value) then
      { v with replaced := (show SecretRow from row).owner :: v.replaced }
    else v
  | .commit, _ => v.committed
  | .rollback, _ => v.ended
  | _, _ => v

/-- The answer agrees with the rows that were read. -/
def Coherent : (s : ConnectionStmt) → s.Answer → Prop
  | .update .secrets id _ _, answer => ∀ row, (show Option SecretRow from answer) = some row →
    id ∉ v.gone ∧ ∀ known ∈ v.loaded, known.secret.id = id → known.owner = row.owner
  | _, _ => True

/-- What is known after an answer; a statement that raises ends the transaction. -/
def observe (s : ConnectionStmt) : Except ConnectionExn (ConnectionReply s) → ConnectionView
  | .ok reply =>
    { v.note s reply with
      Sane := v.Sane ∧ s.Possible v.tx.held reply.value ∧ v.Coherent s reply.value
      tx := v.tx.observe protects s reply.value }
  | .error _ => v.ended

/-! ### What an answer leaves alone -/

/-- What an answer can say: a row of secrets was read, written or added, or the transaction is
over. -/
inductive Noted : (s : ConnectionStmt) → ConnectionReply s → ConnectionView → Prop
  | same {s : ConnectionStmt} {reply : ConnectionReply s} : Noted s reply v
  | read {q : SecretQuery} {reply : ConnectionReply (.select .secrets q)} :
    Noted (.select .secrets q) reply (v.read reply.value)
  | updated {id : String} {q : SecretQuery} {change : SecretChange} {row : SecretRow}
      {reply : ConnectionReply (.update .secrets id q change)}
      (written : (show Option SecretRow from reply.value) = some row) :
    Noted (.update .secrets id q change) reply (v.updated row change)
  | inserted {row : SecretRow} {reply : ConnectionReply (.insert .secrets row)} :
    Noted (.insert .secrets row) reply { v with replaced := row.owner :: v.replaced }
  | committed {reply : ConnectionReply .commit} : Noted .commit reply v.committed
  | ended {reply : ConnectionReply .rollback} : Noted .rollback reply v.ended

section Observe

variable {v} {s : ConnectionStmt}

theorem noted (v : ConnectionView) (reply : ConnectionReply s) : v.Noted s reply (v.note s reply) := by
  cases s with
  | select t q =>
    cases t with
    | secrets => exact .read
    | _ => exact .same
  | update t id q change =>
    cases t with
    | secrets =>
      cases written : (show Option SecretRow from reply.value) with
      | none =>
        simp only [note, written]
        exact .same
      | some row =>
        simp only [note, written]
        exact .updated written
    | _ => exact .same
  | insert t row =>
    cases t with
    | secrets =>
      simp only [note]
      split_ifs
      · exact .inserted
      · exact .same
    | _ => exact .same
  | lock t k q => exact .same
  | commit => exact .committed
  | rollback => exact .ended

theorem isTest_observe (v : ConnectionView) (s : ConnectionStmt)
    (answer : Except ConnectionExn (ConnectionReply s)) : (v.observe s answer).isTest = v.isTest := by
  cases answer with
  | error e => rfl
  | ok reply =>
    have h := v.noted reply
    simp only [observe]
    generalize v.note s reply = w at h ⊢
    cases h <;> rfl

/-- What was concluded stays concluded. -/
theorem concluded_observe {answer : Except ConnectionExn (ConnectionReply s)}
    (quiet : (v.observe s answer).concluded = false) : v.concluded = false := by
  cases answer with
  | error e => exact quiet
  | ok reply =>
    have h := v.noted reply
    simp only [observe] at quiet
    generalize v.note s reply = w at h quiet
    cases h with
    | @updated id q change row reply written =>
      cases change with
      | conclude finding => cases quiet
      | _ => exact quiet
    | _ => exact quiet

/-- Within a transaction the credentials that it has replaced stay known. -/
theorem replaced_subset {reply : ConnectionReply s} (commit : s ≠ .commit) (rollback : s ≠ .rollback) :
    v.replaced ⊆ (v.observe s (.ok reply)).replaced := by
  have h := v.noted reply
  simp only [observe]
  generalize v.note s reply = w at h ⊢
  cases h with
  | updated written =>
    simp only [updated]
    split_ifs
    · exact fun _ mem => List.mem_cons_of_mem _ mem
    · exact fun _ mem => mem
  | inserted => exact fun _ mem => List.mem_cons_of_mem _ mem
  | committed => exact absurd rfl commit
  | ended => exact absurd rfl rollback
  | _ => exact fun _ mem => mem

theorem claimed_observe {reply : ConnectionReply s} (commit : s ≠ .commit) :
    (v.observe s (.ok reply)).claimed = v.claimed := by
  have h := v.noted reply
  simp only [observe]
  generalize v.note s reply = w at h ⊢
  cases h with
  | committed => exact absurd rfl commit
  | _ => rfl

end Observe

/-! ### What the statements rely on -/

variable (env : ConnectionEnv)

/-- A test concludes the claim that it has committed, with the bundle of the revision that it has
claimed. -/
def MayConclude (id : String) (q : SecretQuery) (finding : Finding) : Prop :=
  v.claimed = some ⟨id, finding.revision, finding.checkId⟩ ∧
    (∃ userId provider, q = .claimed userId provider finding.revision finding.checkId) ∧
    ∃ row ∈ v.loaded, row.secret.id = id ∧ row.updatedAt = finding.revision ∧
      credentialsOf env row.toUserSecret = .ok finding.credentials

/-- What an update of a row of secrets relies on. -/
def MayUpdate (id : String) (q : SecretQuery) : SecretChange → Prop
  | .touch _ => True
  | .claim _ => True
  | .conclude finding => v.MayConclude env id q finding
  | .save _ saved _ => v.isTest = false ∧ IsSaved saved
  | .delete => v.isTest = false

/-- What the insertion of a row of secrets relies on. -/
def MayInsert (row : SecretRow) : Prop :=
  v.isTest = false ∧ IsSaved row.toUserSecret ∧ row.deleted = false ∧
    row.generations = [(row.updatedAt, row.secret.envelope)] ∧ row.claims = [] ∧ row.findings = []

/-- What a statement relies on. -/
def Relies : ConnectionStmt → Prop
  | .update .secrets id q change => v.MayUpdate env id q change
  | .insert .secrets row => v.MayInsert row
  | .commit => ∀ owner ∈ v.replaced,
      v.tx.listed .caches = some ((.of owner.1 owner.2 : CacheQuery), [])
  | _ => True

end ConnectionView

/-- The protocol of the calls; nothing is said about a call that was told something impossible. -/
def connectionProtocol (env : ConnectionEnv) :
    Protocol ConnectionReply ConnectionExn ConnectionView where
  Allowed v s := v.Sane → v.Relies env s
  observe v s answer := v.observe s answer

/-! ## The service -/

/-- What the database decides: whether a statement raises, whether a commit that raises has taken
effect, the clock and what is drawn. -/
structure ConnectionOracle where
  raises : Bool := false
  lost : Bool := false
  now : Time
  newId : String := ""
  drawn : Credentials.Drawn := ⟨[], [], []⟩

/-- The database after a statement of the thread `i` that raises: its transaction is over, and has
taken effect when only the reply to its commit was lost. -/
def raised (o : ConnectionOracle) (i : Nat) (db : Db schema) : ConnectionStmt → Db schema
  | .commit => if o.lost then db.commit i else db.rollback i
  | _ => db.rollback i

/-- The answer to a statement of the thread `i`. -/
def serve (o : ConnectionOracle) (i : Nat) (db : Db schema) (s : ConnectionStmt) :
    Option (Except ConnectionExn (ConnectionReply s) × Db schema) :=
  if o.raises then some (.error (.other "DBAPIError"), raised o i db s)
  else (db.exec i s).map fun a => (.ok ⟨a.1, o.now, o.newId, o.drawn⟩, a.2)

/-- The answer commits the transaction. -/
def commits (o : ConnectionOracle) : ConnectionStmt → Bool
  | .commit => !o.raises || o.lost
  | _ => false

/-- The call is a connection test. -/
def ConnectionCall.isTest : ConnectionCall → Bool
  | .test .. => true
  | _ => false

/-- Concurrent calls over one database. -/
def connectionWorkload (env : ConnectionEnv) :
    Workload ConnectionReply ConnectionExn ConnectionOutcome ConnectionView (Db schema)
      ConnectionCall ConnectionOracle where
  protocol := connectionProtocol env
  program := ConnectionCall.program env
  view call := { isTest := call.isTest }
  serve := serve

/-! ## Statements of every call -/

section Plain

variable {env : ConnectionEnv} {v w : ConnectionView} {α : Type}

/-- A statement that every call may execute: it neither replaces, deletes nor inserts a credential,
and writes no claim and no finding. -/
def Plain : ConnectionStmt → Prop
  | .update .secrets _ _ change => ∃ now, (show SecretChange from change) = .touch now
  | .insert .secrets _ => False
  | _ => True

/-- What plain statements keep: no credential is replaced, the rows that were read stay known, and
the claim that is committed and what was concluded are as before. -/
structure ConnectionView.Onward (v w : ConnectionView) : Prop where
  isTest : w.isTest = v.isTest
  replaced : v.replaced = [] → w.replaced = []
  loaded : ∀ row ∈ v.loaded, row ∈ w.loaded
  gone : ∀ id ∈ v.gone, id ∈ w.gone
  claiming : v.claiming = none → w.claiming = none
  claimed : v.claiming = none → w.claimed = v.claimed
  concluded : w.concluded = v.concluded
  sane : w.Sane → v.Sane

namespace ConnectionView.Onward

theorem refl (v : ConnectionView) : v.Onward v :=
  ⟨rfl, id, fun _ => id, fun _ => id, id, fun _ => rfl, rfl, id⟩

theorem trans {x : ConnectionView} (h : v.Onward w) (h' : w.Onward x) : v.Onward x where
  isTest := h'.isTest.trans h.isTest
  replaced none := h'.replaced (h.replaced none)
  loaded row mem := h'.loaded row (h.loaded row mem)
  gone id mem := h'.gone id (h.gone id mem)
  claiming none := h'.claiming (h.claiming none)
  claimed none := (h'.claimed (h.claiming none)).trans (h.claimed none)
  concluded := h'.concluded.trans h.concluded
  sane := h.sane ∘ h'.sane

theorem ended (v : ConnectionView) : v.Onward v.ended :=
  ⟨rfl, fun _ => rfl, fun _ => id, fun _ => id, fun _ => rfl, fun _ => rfl, rfl, id⟩

theorem committed (v : ConnectionView) : v.Onward v.committed :=
  ⟨rfl, fun _ => rfl, fun _ => id, fun _ => id, fun _ => rfl, fun none => by
    rw [ConnectionView.committed, none, Option.none_or], rfl, id⟩

theorem read (v : ConnectionView) (rows : List SecretRow) : v.Onward (v.read rows) :=
  ⟨rfl, id, fun _ mem => List.mem_append_right _ mem, fun _ mem => List.mem_append_right _ mem, id,
    fun _ => rfl, rfl, id⟩

theorem note {s : ConnectionStmt} (plain : Plain s) (reply : ConnectionReply s) :
    v.Onward (v.note s reply) := by
  have h := v.noted reply
  generalize v.note s reply = w at h ⊢
  cases h with
  | same => exact refl v
  | read => exact read v _
  | updated written =>
    obtain ⟨now, rfl⟩ := plain
    exact ⟨rfl, id, fun _ => id, fun _ => id, id, fun _ => rfl, rfl, id⟩
  | inserted => exact plain.elim
  | committed => exact committed v
  | ended => exact ended v

theorem observe {s : ConnectionStmt} (plain : Plain s)
    (answer : Except ConnectionExn (ConnectionReply s)) : v.Onward (v.observe s answer) := by
  cases answer with
  | ok reply =>
    have h := note (v := v) plain reply
    exact ⟨h.isTest, h.replaced, h.loaded, h.gone, h.claiming, h.claimed, h.concluded,
      fun sane => sane.1⟩
  | error e => exact ended v

end ConnectionView.Onward

theorem relies_plain {s : ConnectionStmt} (plain : Plain s) (none : v.replaced = []) :
    v.Relies env s := by
  cases s with
  | select t q => cases t <;> trivial
  | lock t k q => cases t <;> trivial
  | update t k q change =>
    cases t with
    | secrets =>
      obtain ⟨now, rfl⟩ := plain
      trivial
    | _ => trivial
  | insert t row =>
    cases t with
    | secrets => exact plain.elim
    | _ => trivial
  | commit =>
    intro owner mem
    rw [none] at mem
    cases mem
  | rollback => trivial

/-- A program of plain statements follows the protocol where no credential is replaced. -/
theorem sat_plain {p : ConnectionProgram α} (h : Confined Plain p) (none : v.replaced = []) :
    Sat (connectionProtocol env) (fun w _ => v.Onward w ∧ w.replaced = []) v p :=
  h.sat (I := fun w => v.Onward w ∧ w.replaced = []) ⟨.refl v, none⟩
    fun _ _ ⟨onward, none⟩ plain => ⟨fun _ => relies_plain plain none, fun answer =>
      ⟨onward.trans (.observe plain answer), (ConnectionView.Onward.observe plain answer).replaced none⟩⟩

end Plain

/-! ## Programs of plain statements -/

section Confined

variable {env : ConnectionEnv} {userId provider catalogNamespace : String} {now : Time}
  {last : Answered Unit} {opened : Opened} {credentials : Bundle} {resolved : Resolved}

theorem confined_saving {α : Type} {x : Except SaveError α} : Confined Plain (saving x) := by
  cases x <;> trivial

theorem confined_refresh {id : String} : Confined Plain (refresh id) := by
  refine confined_call_bind trivial fun found => ?_
  split <;> trivial

theorem confined_reserveMasterKeyUse : Confined Plain (reserveMasterKeyUse env now) := by
  refine confined_call_bind trivial fun added => ?_
  split
  · trivial
  · refine confined_call_bind trivial fun used => ?_
    split <;> trivial

theorem confined_decryptForRun {known : Option SecretRow} :
    Confined Plain (decryptForRun env known userId provider) := by
  refine confined_saving.bind fun name => confined_call_bind trivial fun found => ?_
  split
  · trivial
  · refine confined_saving.bind fun bundle => ?_
    exact confined_call_bind ⟨_, rfl⟩ fun _ => confined_call_bind trivial fun _ => trivial

theorem confined_superseded : Confined Plain (superseded userId provider) := by
  refine confined_call_bind trivial fun found => ?_
  split <;> trivial

/-! ### Browsing -/

theorem confined_credentialsFor :
    Confined Plain (credentialsFor env userId provider resolved last) := by
  unfold credentialsFor
  split
  · trivial
  · refine confined_decryptForRun.bind fun read => ?_
    dsimp only
    split_ifs
    · refine confined_call_bind trivial fun found => ?_
      split <;> trivial
    · trivial

theorem confined_requireCurrentGeneration (requests : Nat) (last : Answered Unit) :
    Confined Plain (requireCurrentGeneration env userId opened requests last) := by
  induction requests generalizing last with
  | zero => trivial
  | succ requests ih =>
    refine confined_call_bind trivial fun found => ?_
    split
    · exact ih _
    · trivial

theorem confined_fetch {answer : ProviderAnswer} :
    Confined Plain (fetch env userId provider opened credentials answer last) := by
  refine (confined_requireCurrentGeneration _ _).bind fun last => ?_
  split <;> trivial

theorem confined_fetchPages (answers : List ProviderAnswer) (first : CatalogPayload × Answered Unit) :
    Confined Plain (fetchPages env userId provider opened credentials answers first) := by
  induction answers generalizing first with
  | nil =>
    unfold fetchPages
    split <;> trivial
  | cons answer rest ih =>
    unfold fetchPages
    split
    · trivial
    · refine confined_fetch.bind fun next => ?_
      dsimp only
      split_ifs
      · trivial
      · exact ih _

theorem confined_fetchAll {answers : List ProviderAnswer} :
    Confined Plain (fetchAll env userId provider opened credentials answers last) := by
  cases answers with
  | nil => trivial
  | cons answer rest =>
    refine confined_fetch.bind fun first => ?_
    split_ifs
    · exact confined_fetchPages rest first
    · trivial

theorem confined_readCache : Confined Plain (readCache env userId provider catalogNamespace now) :=
  confined_call_bind trivial fun _ => trivial

theorem confined_upsertCache (row : CacheRow) (attempts : Nat) :
    Confined Plain (upsertCache row attempts) := by
  induction attempts with
  | zero => trivial
  | succ attempts ih =>
    refine confined_call_bind trivial fun added => ?_
    split
    · trivial
    · refine confined_call_bind trivial fun found => ?_
      split
      · exact ih
      · refine confined_call_bind trivial fun written => ?_
        split
        · trivial
        · exact ih

theorem confined_writeCache {payload : CatalogPayload} :
    Confined Plain (writeCache env userId provider catalogNamespace payload opened last) :=
  (confined_upsertCache _ _).bind fun _ => confined_call_bind trivial fun _ => trivial

theorem confined_withProvisioned {items : List RemoteNamespace} :
    Confined Plain (withProvisioned env userId provider items) := by
  unfold withProvisioned
  split_ifs
  · exact confined_call_bind trivial fun _ => trivial
  · trivial

theorem confined_listNamespaces {answers : List ProviderAnswer} :
    Confined Plain (listNamespaces env userId provider answers resolved now) := by
  refine confined_readCache.bind fun read => ?_
  dsimp only
  split
  · split
    · trivial
    · exact confined_withProvisioned.bind fun _ => trivial
  · refine confined_credentialsFor.bind fun known => ?_
    split
    · trivial
    · refine confined_fetch.bind fun page => ?_
      split
      · trivial
      · exact confined_writeCache.bind fun _ => confined_withProvisioned.bind fun _ => trivial

theorem confined_listingCredentials :
    Confined Plain (listingCredentials env userId provider catalogNamespace opened) := by
  unfold listingCredentials
  split_ifs
  · refine Confined.bind (confined_call_bind trivial fun found => ?_) fun _ => trivial
    split <;> trivial
  · trivial

theorem confined_listObjects {answers : List ProviderAnswer} :
    Confined Plain (listObjects env userId provider catalogNamespace answers resolved now) := by
  refine confined_readCache.bind fun read => ?_
  dsimp only
  split
  · split_ifs <;> trivial
  · refine confined_credentialsFor.bind fun known => ?_
    refine confined_listingCredentials.bind fun credentials => ?_
    refine confined_fetchAll.bind fun page => ?_
    exact confined_writeCache.bind fun _ => trivial

theorem confined_browseAll (listings : List Listing) (resolved : Resolved) (now : Time) :
    Confined Plain (browseAll env userId listings resolved now) := by
  induction listings generalizing resolved now with
  | nil => trivial
  | cons listing rest ih =>
    unfold browseAll
    split
    · exact confined_listNamespaces.bind fun _ => (ih _ _).bind fun _ => trivial
    · exact confined_listObjects.bind fun _ => (ih _ _).bind fun _ => trivial

end Confined

/-! ## What the calls rely on -/

section Conformance

variable {env : ConnectionEnv} {v w : ConnectionView} {userId provider name reference checkId : String}
  {stored : SecretRow} {opened : Opened} {probe : Probe} {α : Type}

/-- The program follows the protocol. -/
abbrev Abides (env : ConnectionEnv) (v : ConnectionView) (p : ConnectionProgram α) : Prop :=
  Sat (connectionProtocol env) (fun _ _ => True) v p

/-- A test that was superseded has written nothing that it has found. -/
def Superseded (v : ConnectionView) (r : Except ConnectionExn ConnectionOutcome) : Prop :=
  ∀ row, r = .ok (.superseded row) → v.concluded = false

theorem of_error {e : ConnectionExn} {P : α → Prop} :
    ∀ a, (.error e : Except ConnectionExn α) = .ok a → P a := by
  rintro a ⟨⟩

/-- A function of `secrets.py` that returns is followed by the rest. -/
theorem sat_saving {β : Type} {Q : ConnectionView → Except ConnectionExn β → Prop}
    {x : Except SaveError α} {f : α → ConnectionProgram β}
    (rest : ∀ a, x = .ok a → Sat (connectionProtocol env) Q v (f a))
    (error : ∀ e, Q v (.error e)) : Sat (connectionProtocol env) Q v (saving x >>= f) := by
  cases x with
  | ok a => exact rest a rfl
  | error e => exact error _

theorem superseded_error (v : ConnectionView) (e : ConnectionExn) : Superseded v (.error e) := by
  rintro row ⟨⟩

theorem superseded_tested (v : ConnectionView) (row : SecretRow) :
    Superseded v (.ok (.tested row)) := by
  rintro row ⟨⟩

/-- The call has locked no credential and replaced none. -/
structure ConnectionView.Clear (v : ConnectionView) : Prop where
  held : ∀ id, v.tx.held ⟨.secrets, id⟩ = none
  replaced : v.replaced = []
  claiming : v.claiming = none

theorem clear_ended (v : ConnectionView) (reply : ConnectionReply .commit) :
    (v.observe .commit (.ok reply)).Clear :=
  ⟨fun _ => rfl, rfl, rfl⟩

theorem ConnectionView.Clear.unlocked (clear : v.Clear) (id : String) : v.unlocked id = true := by
  rw [ConnectionView.unlocked, clear.held]
  rfl

theorem ConnectionView.Clear.select (clear : v.Clear) {q : SecretQuery}
    (reply : ConnectionReply (.select .secrets q)) :
    (v.observe (.select .secrets q) (.ok reply)).Clear :=
  ⟨clear.held, clear.replaced, clear.claiming⟩

theorem abides_plain {p : ConnectionProgram α} (plain : Confined Plain p) (none : v.replaced = []) :
    Abides env v p :=
  (sat_plain plain none).mono fun _ _ _ => trivial

/-- Plain statements followed by the rest. -/
theorem Abides.plain_bind {β : Type} {Q : ConnectionView → Except ConnectionExn β → Prop}
    {p : ConnectionProgram α} {f : α → ConnectionProgram β} (plain : Confined Plain p)
    (none : v.replaced = [])
    (rest : ∀ w a, v.Onward w → w.replaced = [] → Sat (connectionProtocol env) Q w (f a))
    (error : ∀ w e, Q w (.error e)) : Sat (connectionProtocol env) Q v (p >>= f) :=
  Sat.bind (sat_plain plain none) (fun w a h => rest w a h.1 h.2) fun w e _ => error w e

/-- A row that was read while nothing is locked is known. -/
theorem mem_loaded (clear : v.Clear) {q : SecretQuery} {reply : ConnectionReply (.select .secrets q)}
    (found : stored ∈ (show List SecretRow from reply.value)) :
    stored ∈ (v.observe (.select .secrets q) (.ok reply)).loaded :=
  List.mem_append_left _ (List.mem_filter.2 ⟨found, clear.unlocked _⟩)

/-- A row that was read before is gone when another row of its owner is read. -/
theorem mem_gone (clear : v.Clear) {q : SecretQuery} {reply : ConnectionReply (.select .secrets q)}
    {row : SecretRow} (found : row ∈ (show List SecretRow from reply.value)) (known : stored ∈ v.loaded)
    (owner : row.owner = stored.owner) (other : row.secret.id ≠ stored.secret.id) :
    stored.secret.id ∈ (v.observe (.select .secrets q) (.ok reply)).gone := by
  refine List.mem_append_left _ (List.mem_map.2 ⟨stored, List.mem_filter.2 ⟨known, ?_⟩, rfl⟩)
  rw [clear.unlocked, Bool.true_and]
  exact List.any_eq_true.2 ⟨row, List.mem_filter.2 ⟨found, clear.unlocked _⟩,
    decide_eq_true ⟨owner, other⟩⟩

/-! ### Testing -/

/-- A test has read the bundle of the row that it claims, or the row is gone. -/
def Reads (env : ConnectionEnv) (stored : SecretRow) (opened : Opened) (v : ConnectionView) : Prop :=
  stored.secret.id ∈ v.gone ∨ credentialsOf env stored.toUserSecret = .ok opened.credentials

theorem sat_decryptForRun (clear : v.Clear) (known : stored ∈ v.loaded)
    (required : env.requireProvider provider = .ok name)
    (owner : v.Sane → stored.owner = (userId, name)) :
    Sat (connectionProtocol env) (fun w r => ∀ opened last, r = .ok (opened, last) → v.Onward w ∧
      w.Clear ∧ (w.Sane → Reads env stored opened w)) v
      (decryptForRun env (some stored) userId provider) := by
  unfold decryptForRun
  rw [required]
  refine Sat.call_bind (fun _ => trivial) (fun found => ?_) fun _ => nofun
  have onward₁ := ConnectionView.Onward.observe (v := v)
    (s := .select .secrets (.of userId name : SecretQuery)) trivial (.ok found)
  split
  · exact nofun
  · rename_i row same
    obtain ⟨head, first, same⟩ := Option.map_eq_some_iff.1 same
    have mem : head ∈ (show List SecretRow from found.value) := List.mem_of_mem_head? first
    cases opens : bundleOf env row.toUserSecret with
    | error e => exact nofun
    | ok bundle =>
      refine Sat.call_bind (fun _ => trivial) (fun touched => ?_) fun _ => nofun
      have onward₂ := onward₁.trans (ConnectionView.Onward.observe
        (v := v.observe (.select .secrets (.of userId name : SecretQuery)) (.ok found))
        (s := .update .secrets row.secret.id (.revision row.updatedAt : SecretQuery)
          (.touch found.now : SecretChange)) ⟨_, rfl⟩ (.ok touched))
      refine Sat.call_bind (fun _ => relies_plain (s := .commit) trivial
        (onward₂.replaced clear.replaced)) (fun committed => ?_) fun _ => nofun
      have onward₃ := onward₂.trans (ConnectionView.Onward.observe (s := .commit) trivial
        (.ok committed))
      rintro opened last ⟨⟩
      refine ⟨onward₃, clear_ended _ committed, fun sane => ?_⟩
      obtain ⟨⟨⟨sane, possible, -⟩, -⟩, -⟩ := sane
      have of : head.Of userId name := of_decide_eq_true (possible head mem).1
      have headOwner : head.owner = stored.owner := (owner sane).symm ▸ Prod.ext of.2.1 of.2.2
      by_cases id : head.secret.id = stored.secret.id
      · right
        have again : row = stored := by
          rw [← same]
          simp [id, Option.filter]
        subst again
        have provided : row.secret.provider = name := congrArg Prod.snd (owner sane)
        rw [credentialsOf, opens, provided]
        rfl
      · refine .inl ?_
        have gone := mem_gone clear (q := (.of userId name : SecretQuery)) mem known headOwner id
        exact (ConnectionView.Onward.observe (s := .commit) trivial (.ok committed)).gone _
          ((ConnectionView.Onward.observe
            (s := .update .secrets row.secret.id (.revision row.updatedAt : SecretQuery)
              (.touch found.now : SecretChange)) ⟨_, rfl⟩ (.ok touched)).gone _ gone)

/-- What a claim or a finding that has met no row leaves as it is. -/
theorem onward_missed {id : String} {q : SecretQuery} {change : SecretChange}
    {reply : ConnectionReply (.update .secrets id q change)}
    (missed : (show Option SecretRow from reply.value) = none) :
    v.Onward (v.observe (.update .secrets id q change) (.ok reply)) := by
  have same : v.note (.update .secrets id q change) reply = v := by
    simp only [ConnectionView.note, missed]
  refine ⟨?_, ?_, ?_, ?_, ?_, ?_, ?_, fun sane => sane.1⟩ <;>
    simp only [ConnectionView.observe, same] <;> simp

theorem findingOf_eq {now : Time} {finding : Finding}
    (h : findingOf env name reference checkId now stored.toUserSecret opened probe = .ok finding) :
    finding.checkId = checkId ∧ finding.revision = stored.updatedAt ∧
      finding.credentials = opened.credentials := by
  unfold findingOf at h
  dsimp only at h
  cases expiry : assignedExpiry env stored.toUserSecret opened.credentials
      (probed env name reference opened.credentials probe).2 with
  | error e =>
    rw [expiry] at h
    cases h
  | ok expiry' =>
    rw [expiry] at h
    cases h
    exact ⟨rfl, rfl, rfl⟩

/-- A superseded test ends. -/
theorem sat_superseded (none : v.replaced = []) (quiet : v.concluded = false) :
    Sat (connectionProtocol env) Superseded v (superseded userId name) :=
  (sat_plain confined_superseded none).mono fun _ _ h _ _ => h.1.concluded.trans quiet

/-- A test concludes the claim that it has committed. -/
theorem sat_writeFinding {finding : Finding} (clear : v.Clear) (quiet : v.concluded = false)
    (allowed : v.Sane → v.MayConclude env stored.secret.id
      (.claimed userId name finding.revision finding.checkId) finding) :
    Sat (connectionProtocol env) Superseded v (writeFinding userId name stored finding) := by
  refine Sat.call_bind allowed (fun written => ?_) fun _ => superseded_error _ _
  cases missed : (show Option SecretRow from written.value) with
  | none =>
    have onward := onward_missed (v := v) missed
    refine Sat.call_bind (fun _ => relies_plain (s := .commit) trivial
      (onward.replaced clear.replaced)) (fun committed => ?_) fun _ => superseded_error _ _
    exact sat_superseded (clear_ended _ committed).replaced (onward.concluded.trans quiet)
  | some row =>
    have none : (v.observe (.update .secrets stored.secret.id
        (.claimed userId name finding.revision finding.checkId : SecretQuery)
        (.conclude finding : SecretChange)) (.ok written)).replaced = [] := by
      simp only [ConnectionView.observe, ConnectionView.note, missed]
      exact clear.replaced
    refine Sat.call_bind (fun _ => relies_plain (s := .commit) trivial none) (fun committed => ?_)
      fun _ => superseded_error _ _
    refine Sat.call_bind (fun _ => relies_plain (s := .commit) trivial
      (clear_ended _ committed).replaced) (fun again => ?_) fun _ => superseded_error _ _
    exact Abides.plain_bind confined_refresh (clear_ended _ again).replaced
      (fun _ _ _ _ => superseded_tested _ _) superseded_error

/-- What is known after a claim that has met its row and its commit. -/
theorem observe_claim {id : String} {q : SecretQuery} {row : SecretRow}
    {claimed : ConnectionReply (.update .secrets id q (.claim checkId : SecretChange))}
    (met : (show Option SecretRow from claimed.value) = some row)
    (committed : ConnectionReply .commit) :
    let w := (v.observe (.update .secrets id q (.claim checkId : SecretChange)) (.ok claimed)).observe
      .commit (.ok committed)
    w.claimed = some ⟨row.secret.id, row.updatedAt, checkId⟩ ∧ w.loaded = v.loaded ∧
      w.concluded = v.concluded := by
  have noted : v.note (.update .secrets id q (.claim checkId : SecretChange)) claimed =
      v.updated row (.claim checkId) := by
    simp only [ConnectionView.note, met]
  refine ⟨?_, ?_, ?_⟩ <;> simp only [ConnectionView.observe, noted] <;> rfl

theorem holds_ownedAt {row : SecretRow} {revision : Time}
    (h : SecretQuery.holds row (.ownedAt userId name revision) = true) : row.updatedAt = revision :=
  (of_decide_eq_true h : row.Of userId name ∧ row.updatedAt = revision).2

theorem sat_claimAndTest {last : Answered Unit} (clear : v.Clear) (quiet : v.concluded = false)
    (known : stored ∈ v.loaded) (reads : v.Sane → Reads env stored opened v) :
    Sat (connectionProtocol env) Superseded v
      (claimAndTest env userId name stored opened reference probe last) := by
  refine Sat.call_bind (fun _ => trivial) (fun claimed => ?_) fun _ => superseded_error _ _
  cases met : (show Option SecretRow from claimed.value) with
  | none =>
    have onward := onward_missed (v := v) met
    refine Sat.call_bind (fun _ => relies_plain (s := .commit) trivial
      (onward.replaced clear.replaced)) (fun committed => ?_) fun _ => superseded_error _ _
    exact sat_superseded (clear_ended _ committed).replaced (onward.concluded.trans quiet)
  | some row =>
    have none : (v.observe (.update .secrets stored.secret.id
        (.ownedAt userId name stored.updatedAt : SecretQuery) (.claim last.newId : SecretChange))
          (.ok claimed)).replaced = [] := by
      simp only [ConnectionView.observe, ConnectionView.note, met]
      exact clear.replaced
    refine Sat.call_bind (fun _ => relies_plain (s := .commit) trivial none) (fun committed => ?_)
      fun _ => superseded_error _ _
    obtain ⟨own, loaded, concluded⟩ := observe_claim (v := v) met committed
    cases found : findingOf env name reference last.newId committed.now stored.toUserSecret opened
      probe with
    | error e => exact superseded_error _ _
    | ok finding =>
      refine sat_writeFinding (clear_ended _ committed) (concluded.trans quiet) fun sane => ?_
      obtain ⟨⟨sane, possible, coherent⟩, -⟩ := sane
      obtain ⟨check, revision, used⟩ := findingOf_eq found
      obtain ⟨(r : SecretRow), key, holds, same⟩ := possible row met
      have key : r.secret.id = stored.secret.id := key
      have opens := (reads sane).resolve_left (coherent row met).1
      refine ⟨own.trans ?_, ⟨userId, name, rfl⟩, stored, loaded ▸ known, rfl, revision.symm,
        used ▸ opens⟩
      subst same
      rw [revision, check, ← holds_ownedAt holds, ← key]
      rfl

theorem sat_testUserConnection (clear : v.Clear) (quiet : v.concluded = false) :
    Sat (connectionProtocol env) Superseded v
      (testUserConnection env userId provider reference probe) := by
  unfold testUserConnection
  cases required : env.requireProvider provider with
  | error e => exact superseded_error _ _
  | ok name =>
    refine Sat.call_bind (fun _ => trivial) (fun found => ?_) fun _ => superseded_error _ _
    split
    · exact superseded_error _ _
    · rename_i stored rest same
      have mem : stored ∈ (show List SecretRow from found.value) := same ▸ List.mem_cons_self
      have known := mem_loaded clear mem
      have onward := ConnectionView.Onward.observe (v := v)
        (s := .select .secrets (.of userId name : SecretQuery)) trivial (.ok found)
      refine Sat.bind (sat_decryptForRun (clear.select found) known required fun sane => ?_)
        (fun w read h => ?_) fun _ _ _ => superseded_error _ _
      · have of : stored.Of userId name := of_decide_eq_true (sane.2.1 stored mem).1
        exact Prod.ext of.2.1 of.2.2
      · obtain ⟨further, clear, reads⟩ := h read.1 read.2 rfl
        exact sat_claimAndTest clear (further.concluded.trans (onward.concluded.trans quiet))
          (further.loaded _ known) reads

/-! ### Updates of other tables -/

/-- Nothing is known beyond new locks and lists. -/
structure ConnectionView.Same (v w : ConnectionView) : Prop where
  isTest : w.isTest = v.isTest
  replaced : w.replaced = v.replaced
  loaded : w.loaded = v.loaded
  sane : w.Sane → v.Sane

theorem ConnectionView.Same.trans {x : ConnectionView} (h : v.Same w) (h' : w.Same x) : v.Same x :=
  ⟨h'.isTest.trans h.isTest, h'.replaced.trans h.replaced, h'.loaded.trans h.loaded,
    h.sane ∘ h'.sane⟩

theorem same_observe {s : ConnectionStmt} {reply : ConnectionReply s} (noted : v.note s reply = v) :
    v.Same (v.observe s (.ok reply)) := by
  refine ⟨?_, ?_, ?_, fun sane => sane.1⟩ <;> simp only [ConnectionView.observe, noted]

theorem relies_elsewhere {t : Table} {k : String} {q : t.Query} {change : t.Change}
    (other : t ≠ .secrets) : v.Relies env (.update t k q change) := by
  cases t with
  | secrets => exact absurd rfl other
  | _ => trivial

theorem note_elsewhere {t : Table} {k : String} {q : t.Query} {change : t.Change}
    (other : t ≠ .secrets) (reply : ConnectionReply (.update t k q change)) :
    v.note (.update t k q change) reply = v := by
  cases t with
  | secrets => exact absurd rfl other
  | _ => rfl

theorem listed_update {t t' : Table} {k : String} {q : t.Query} {change : t.Change} (other : t' ≠ t)
    (reply : ConnectionReply (.update t k q change)) :
    (v.observe (.update t k q change) (.ok reply)).tx.listed t' = v.tx.listed t' := by
  obtain ⟨value, now, newId, drawn⟩ := reply
  cases value with
  | none => exact Tx.listed_missed_of_ne other
  | some row => exact Tx.listed_wrote_of_ne other

/-- What is known after all rows were updated that the where clause has selected: if their list is
kept, none is left. -/
structure Swept (v w : ConnectionView) (t : Table) (q : t.Query) : Prop where
  same : v.Same w
  others : ∀ t' ≠ t, w.tx.listed t' = v.tx.listed t'
  left : ConnectionView.protects t q = true → w.Sane → w.tx.listed t = some (q, [])

theorem sat_updateEach {t : Table} {q : t.Query} {change : t.Change} (other : t ≠ .secrets)
    (leaves : ∀ row : t.Row, Table.holds q (Table.apply change row) = false) (rows : List t.Row)
    (last : Answered Unit)
    (left : ConnectionView.protects t q = true → v.Sane → v.tx.Left t q rows) :
    Sat (connectionProtocol env) (fun w r => ∀ a, r = .ok a → Swept v w t q) v
      (updateEach t q change rows last) := by
  induction rows generalizing v last with
  | nil =>
    exact fun _ _ =>
      ⟨⟨rfl, rfl, rfl, id⟩, fun _ _ => rfl, fun kept sane => (left kept sane).listed⟩
  | cons row rows ih =>
    refine Sat.call_bind (fun _ => relies_elsewhere other) (fun updated => ?_) fun _ => nofun
    have first : v.Same (v.observe (.update t (Table.key row) q change) (.ok updated)) :=
      same_observe (note_elsewhere other updated)
    refine Sat.bind (ih _ fun kept sane => ?_) (fun w others swept a _ => ?_) fun _ _ _ => nofun
    · exact (left kept sane.1).update ConnectionView.protects leaves sane.2.1 (.inl rfl)
    · have swept := swept others rfl
      exact ⟨first.trans swept.same, fun t' apart => (swept.others t' apart).trans
        (listed_update apart updated), swept.left⟩

theorem sat_updateAll {t : Table} {q : t.Query} {change : t.Change} (other : t ≠ .secrets)
    (leaves : ∀ row : t.Row, Table.holds q (Table.apply change row) = false) :
    Sat (connectionProtocol env) (fun w r => ∀ a, r = .ok a → Swept v w t q) v
      (updateAll t q change) := by
  have noted : ∀ reply : ConnectionReply (.select t q), v.note (.select t q) reply = v := by
    cases t with
    | secrets => exact absurd rfl other
    | _ => exact fun _ => rfl
  have relies : v.Relies env (.select t q) := by
    cases t <;> trivial
  refine Sat.call_bind (fun _ => relies) (fun found => ?_) fun _ => nofun
  refine (sat_updateEach other leaves found.value _ fun kept _ => Tx.left_select kept _).mono
    fun w r swept a same => ?_
  have swept := swept a same
  exact ⟨(same_observe (noted found)).trans swept.same, fun t' apart => (swept.others t' apart).trans
    (Tx.listed_select_of_ne apart), swept.left⟩

theorem leaves_caches (row : CacheRow) :
    Table.holds (t := .caches) (.of userId provider : CacheQuery)
      (Table.apply (t := .caches) (.delete : CacheChange) row) = false := by
  refine decide_eq_false (p := CacheRow.Of { row with deleted := true } userId provider) fun of => ?_
  cases of.1

theorem leaves_attempts {now : Time} (attempt : DatabricksComputeAttempt) :
    Table.holds (t := .attempts) userId (Table.apply (t := .attempts) now attempt) = false := by
  refine decide_eq_false fun h => h.2 ?_
  show (attempt.invalidate now attempt.userId).activeKey = none
  unfold DatabricksComputeAttempt.invalidate
  split_ifs with ended
  · simpa using ended
  · rfl

theorem sat_invalidateAttempts {last : Answered Unit} :
    Sat (connectionProtocol env) (fun w r => ∀ a, r = .ok a → v.Same w ∧
      w.tx.listed .caches = v.tx.listed .caches) v (invalidateAttempts userId provider last) := by
  unfold invalidateAttempts
  split_ifs
  · refine Sat.bind (sat_updateAll (t := .attempts) nofun leaves_attempts) (fun w ended swept a _ => ?_)
      fun _ _ _ => nofun
    have swept := swept ended rfl
    exact ⟨swept.same, swept.others .caches nofun⟩
  · exact fun _ _ => ⟨⟨rfl, rfl, rfl, id⟩, rfl⟩

/-- The cached catalog of a provider is dropped. -/
theorem sat_dropCaches :
    Sat (connectionProtocol env) (fun w r => ∀ a, r = .ok a → v.Same w ∧
      (w.Sane → w.tx.listed .caches = some ((.of userId provider : CacheQuery), []))) v
      (updateAll .caches (.of userId provider : CacheQuery) (.delete : CacheChange)) :=
  (sat_updateAll (t := .caches) nofun leaves_caches).mono fun _ _ swept a same =>
    ⟨(swept a same).same, (swept a same).left rfl⟩

/-! ### Saving -/

theorem source_expiryFromCredentials {credentials : Bundle} {expiry : Option Time × String}
    (h : expiryFromCredentials env credentials = .ok expiry) : expiry.2 ∉ reportedSources := by
  unfold expiryFromCredentials at h
  dsimp only at h
  split_ifs at h
  · cases h
    decide
  · cases parsed : env.parseExpiryInput (entry credentials "token_expires_at") with
    | error e =>
      rw [parsed] at h
      cases h
    | ok expires =>
      rw [parsed] at h
      cases h
      simp [reportedSources]
  · cases h
    decide
  · split at h <;> cases h <;> simp [reportedSources]

/-- The transaction has replaced credentials of this owner only, and has dropped its cached
catalog. -/
def Settled (owner : String × String) (v : ConnectionView) : Prop :=
  v.Sane → (∀ other ∈ v.replaced, other = owner) ∧
    v.tx.listed .caches = some ((.of owner.1 owner.2 : CacheQuery), [])

theorem relies_commit {owner : String × String} (settled : Settled owner v) :
    v.Sane → v.Relies env .commit := by
  intro sane other mem
  rw [(settled sane).1 other mem]
  exact (settled sane).2

/-- The object that a save has loaded: it was read, for this owner. -/
def Loaded (owner : String × String) (row? : Option SecretRow) (v : ConnectionView) : Prop :=
  ∀ row, row? = some row → row ∈ v.loaded ∧ (v.Sane → row.owner = owner)

theorem Loaded.same {owner : String × String} {row? : Option SecretRow} (h : Loaded owner row? v)
    (same : v.Same w) : Loaded owner row? w := fun row found =>
  ⟨same.loaded ▸ (h row found).1, fun sane => (h row found).2 (same.sane sane)⟩

theorem Loaded.onward {owner : String × String} {row? : Option SecretRow} (h : Loaded owner row? v)
    (onward : v.Onward w) : Loaded owner row? w := fun row found =>
  ⟨onward.loaded row (h row found).1, fun sane => (h row found).2 (onward.sane sane)⟩

theorem replaced_update {id : String} {q : SecretQuery} {change : SecretChange} {row : SecretRow}
    {reply : ConnectionReply (.update .secrets id q change)}
    (met : (show Option SecretRow from reply.value) = some row) :
    (v.observe (.update .secrets id q change) (.ok reply)).replaced =
      if change.replaces then row.owner :: v.replaced else v.replaced := by
  simp only [ConnectionView.observe, ConnectionView.note, met, ConnectionView.updated]

theorem replaced_insert {row : SecretRow} {reply : ConnectionReply (.insert .secrets row)}
    (added : (show Bool from reply.value) = true) :
    (v.observe (.insert .secrets row) (.ok reply)).replaced = row.owner :: v.replaced := by
  simp only [ConnectionView.observe, ConnectionView.note, added, if_true]

theorem listed_insert {row : SecretRow} (reply : ConnectionReply (.insert .secrets row)) :
    (v.observe (.insert .secrets row) (.ok reply)).tx.listed .caches = v.tx.listed .caches := by
  obtain ⟨value, now, newId, drawn⟩ := reply
  cases value with
  | false => rfl
  | true => exact Tx.listed_wrote_of_ne nofun

theorem sat_flushSecret {saved : UserSecret} {row? : Option SecretRow} {now : Time}
    (plainly : v.isTest = false) (none : v.replaced = [])
    (dropped : v.Sane → v.tx.listed .caches = some ((.of userId provider : CacheQuery), []))
    (known : Loaded (userId, provider) row? v) (isSaved : IsSaved saved)
    (owner : row? = Option.none → (saved.secret.userId, saved.secret.provider) = (userId, provider)) :
    Sat (connectionProtocol env) (fun w r => r = .ok () → Settled (userId, provider) w) v
      (flushSecret row? saved now) := by
  cases row? with
  | some loaded =>
    refine Sat.call_bind (fun _ => ⟨plainly, isSaved⟩) (fun written => ?_) fun _ => nofun
    split
    · rename_i row met
      rintro - ⟨sane, -, coherent⟩
      obtain ⟨mem, owned⟩ := known loaded rfl
      have same : row.owner = (userId, provider) :=
        ((coherent row met).2 loaded mem rfl).symm.trans (owned sane)
      have apart : Table.caches ≠ .secrets := by decide
      refine ⟨fun other mem => ?_, (listed_update apart written).trans (dropped sane)⟩
      have replaced := (replaced_update (v := v) met).trans (if_pos rfl)
      rw [none, same] at replaced
      exact List.mem_singleton.1 (replaced ▸ mem)
    · exact nofun
  | none =>
    refine Sat.call_bind (fun _ => ⟨plainly, isSaved, rfl, rfl, rfl, rfl⟩) (fun added => ?_)
      fun _ => nofun
    split
    · rename_i inserted
      rintro - ⟨sane, -⟩
      refine ⟨fun other mem => ?_, (listed_insert added).trans (dropped sane)⟩
      have replaced := replaced_insert (v := v) inserted
      rw [none] at replaced
      exact (List.mem_singleton.1 (replaced ▸ mem)).trans (owner rfl)
    · exact nofun

/-- The end of a save: its last commit, and the row as it is then. -/
theorem abides_committed {id : String} {changed : Bool} (settled : Settled (userId, provider) v) :
    Abides env v (execute .commit >>= fun _ => refresh id >>= fun row => Pure.pure (row, changed)) :=
  Sat.call_bind (relies_commit settled) (fun committed =>
    Abides.plain_bind confined_refresh (clear_ended _ committed).replaced (fun _ _ _ _ => trivial)
      fun _ _ => trivial) fun _ => trivial

theorem isSaved_replace {saving : Credentials.SaveEnv} {row : UserSecret}
    {envelope : Credentials.EncryptedEnvelope} {expiry : Option Time × String}
    (source : expiry.2 ∉ reportedSources) : IsSaved (row.replace saving envelope expiry) :=
  ⟨rfl, rfl, source⟩

theorem abides_storeChanged {encoded : Bytes} {expiry : Option Time × String}
    {row? : Option SecretRow} {last : Answered Unit} (plainly : v.isTest = false)
    (none : v.replaced = []) (known : Loaded (userId, provider) row? v)
    (source : expiry.2 ∉ reportedSources) :
    Abides env v (storeChanged env userId provider encoded expiry row? last) := by
  refine Sat.bind (sat_plain confined_reserveMasterKeyUse none) (fun w reserved reserve => ?_)
    fun _ _ _ => trivial
  obtain ⟨onward, none⟩ := reserve
  split
  · trivial
  · rename_i envelope _
    refine Sat.bind sat_invalidateAttempts (fun x ended invalidated => ?_) fun _ _ _ => trivial
    have invalidated := (invalidated ended rfl).1
    refine Sat.bind sat_dropCaches (fun y rows dropped => ?_) fun _ _ _ => trivial
    obtain ⟨same, dropped⟩ := dropped rows rfl
    have same := invalidated.trans same
    refine Sat.bind (sat_flushSecret (same.isTest.trans (onward.isTest.trans plainly))
      (same.replaced.trans none) dropped ((known.onward onward).same same) (isSaved_replace source) ?_)
      (fun z _ settled => abides_committed (settled rfl)) fun _ _ _ => trivial
    rintro rfl
    rfl

theorem loaded_none (owner : String × String) (v : ConnectionView) : Loaded owner none v := by
  rintro row ⟨⟩

theorem reload_cases {known : Option SecretRow} {rows : List SecretRow}
    (h : reload known rows = some stored) : known = some stored ∨ stored ∈ rows := by
  obtain ⟨row, first, same⟩ := Option.map_eq_some_iff.1 h
  cases held : known.filter fun held => held.secret.id = row.secret.id with
  | none =>
    rw [held, Option.getD_none] at same
    exact .inr (same ▸ List.mem_of_mem_head? first)
  | some other =>
    rw [held, Option.getD_some] at same
    exact .inl (same ▸ (Option.filter_eq_some_iff.1 held).1)

/-- A row that is read for its owner is loaded. -/
theorem loaded_select (clear : v.Clear)
    {reply : ConnectionReply (.select .secrets (.of userId provider : SecretQuery))}
    (found : stored ∈ (show List SecretRow from reply.value)) :
    Loaded (userId, provider) (some stored)
      (v.observe (.select .secrets (.of userId provider : SecretQuery)) (.ok reply)) := by
  rintro row ⟨⟩
  refine ⟨mem_loaded clear found, fun sane => ?_⟩
  have of : stored.Of userId provider := of_decide_eq_true (sane.2.1 stored found).1
  exact Prod.ext of.2.1 of.2.2

theorem clear_lock (clear : v.Clear) (reply : ConnectionReply (.lock .users userId userId)) :
    (v.observe (.lock .users userId userId) (.ok reply)).Clear := by
  refine ⟨fun id => ?_, clear.replaced, clear.claiming⟩
  obtain ⟨value, now, newId, drawn⟩ := reply
  cases value with
  | none => exact clear.held id
  | some user => exact (Tx.held_wrote_of_ne (by rintro ⟨⟩)).trans (clear.held id)

theorem abides_storeEncryptedValue {known : Option SecretRow} {encoded : Bytes}
    {expiry : Option Time × String} (plainly : v.isTest = false) (clear : v.Clear)
    (loaded : Loaded (userId, provider) known v) (source : expiry.2 ∉ reportedSources) :
    Abides env v (storeEncryptedValue env known userId provider encoded expiry) := by
  refine Sat.call_bind (fun _ => trivial) (fun user => ?_) fun _ => trivial
  have locked := ConnectionView.Onward.observe (v := v) (s := .lock .users userId userId) trivial
    (.ok user)
  refine Sat.call_bind (fun _ => trivial) (fun found => ?_) fun _ => trivial
  have onward := locked.trans (ConnectionView.Onward.observe
    (v := v.observe (.lock .users userId userId) (.ok user))
    (s := .select .secrets (.of userId provider : SecretQuery)) trivial (.ok found))
  have none := onward.replaced clear.replaced
  split
  · exact abides_storeChanged (onward.isTest.trans plainly) none (loaded_none _ _) source
  · rename_i row same
    have known : Loaded (userId, provider) (some row)
        ((v.observe (.lock .users userId userId) (.ok user)).observe
          (.select .secrets (.of userId provider : SecretQuery)) (.ok found)) := by
      rcases reload_cases same with rfl | mem
      · exact loaded.onward onward
      · exact loaded_select (clear_lock clear user) mem
    refine Sat.bind (sat_plain confined_saving none) (fun w current saving => ?_) fun _ _ _ => trivial
    obtain ⟨further, none⟩ := saving
    have store : Abides env w (storeChanged env userId provider encoded expiry (some row)
        { found with value := () }) :=
      abides_storeChanged (further.isTest.trans (onward.isTest.trans plainly)) none
        (known.onward further) source
    split
    · split
      · exact abides_plain (confined_call_bind trivial fun _ => confined_refresh.bind fun _ => trivial)
          none
      · exact store
    · exact store

theorem sat_normalizedFor {normalized : Bundle} (clear : v.Clear) :
    Sat (connectionProtocol env) (fun w r => ∀ read, r = .ok read → w.isTest = v.isTest ∧ w.Clear ∧
      Loaded (userId, provider) read.2 w) v (normalizedFor env userId provider normalized) := by
  unfold normalizedFor
  split_ifs
  · refine Sat.call_bind (fun _ => trivial) (fun found => ?_) fun _ => of_error
    split
    · rename_i existing rest same
      have mem : existing ∈ (show List SecretRow from found.value) := same ▸ List.mem_cons_self
      refine sat_saving (fun previous _ => ?_) fun _ => of_error
      rintro read ⟨⟩
      exact ⟨rfl, clear.select found, loaded_select clear mem⟩
    · rintro read ⟨⟩
      exact ⟨rfl, clear.select found, loaded_none _ _⟩
  · rintro read ⟨⟩
    exact ⟨rfl, clear, loaded_none _ _⟩

theorem abides_storeUserCredentialsIfChanged {credentials : Bundle} (plainly : v.isTest = false)
    (clear : v.Clear) :
    Abides env v (storeUserCredentialsIfChanged env userId provider credentials) := by
  refine sat_saving (fun name _ => ?_) fun _ => trivial
  refine sat_saving (fun normalized _ => ?_) fun _ => trivial
  refine Sat.bind (sat_normalizedFor clear) (fun w read known => ?_) fun _ _ _ => trivial
  obtain ⟨isTest, clear, known⟩ := known read rfl
  dsimp only
  split_ifs
  · trivial
  · refine sat_saving (fun expiry expires => ?_) fun _ => trivial
    exact abides_storeEncryptedValue (isTest.trans plainly) clear known
      (source_expiryFromCredentials expires)

/-! ### Deleting -/

theorem holds_of {row : SecretRow}
    (h : SecretQuery.holds row (.of userId provider) = true) : row.owner = (userId, provider) := by
  have of : row.Of userId provider := of_decide_eq_true h
  exact Prod.ext of.2.1 of.2.2

/-- The transaction has replaced credentials of this owner only. -/
def Only (owner : String × String) (v : ConnectionView) : Prop :=
  v.Sane → ∀ other ∈ v.replaced, other = owner

/-- The rows of one owner are deleted. -/
theorem sat_deleteSecrets (rows : List SecretRow) (last : Answered Unit) (plainly : v.isTest = false)
    (only : Only (userId, provider) v) :
    Sat (connectionProtocol env) (fun w r => ∀ removed, r = .ok removed → Only (userId, provider) w) v
      (updateEach .secrets (.of userId provider : SecretQuery) (.delete : SecretChange) rows last) := by
  induction rows generalizing v last with
  | nil => exact fun _ _ => only
  | cons row rows ih =>
    refine Sat.call_bind (fun _ => plainly) (fun updated => ?_) fun _ => of_error
    have first : Only (userId, provider) (v.observe (.update .secrets (Table.key (t := .secrets) row)
        (.of userId provider : SecretQuery) (.delete : SecretChange)) (.ok updated)) := by
      intro sane other mem
      cases met : (show Option SecretRow from updated.value) with
      | none =>
        simp only [ConnectionView.observe, ConnectionView.note, met] at mem
        exact only sane.1 other mem
      | some deleted =>
        obtain ⟨(r : SecretRow), -, holds, same⟩ := sane.2.1 deleted met
        rw [(replaced_update (v := v) met).trans (if_pos rfl)] at mem
        rcases List.mem_cons.1 mem with rfl | mem
        · have owner : r.owner = (userId, provider) := holds_of holds
          exact same ▸ owner
        · exact only sane.1 other mem
    exact Sat.bind (ih _ ((v.isTest_observe _ _).trans plainly) first)
      (fun w others rest removed _ => rest others rfl) fun _ _ _ => of_error

theorem abides_deleteUserSecret (plainly : v.isTest = false) (clear : v.Clear) :
    Abides env v (deleteUserSecret env userId provider) := by
  refine sat_saving (fun name _ => ?_) fun _ => trivial
  refine Sat.call_bind (fun _ => trivial) (fun user => ?_) fun _ => trivial
  have clear := clear_lock clear user
  refine Sat.bind (R := fun w r => ∀ removed, r = .ok removed → Only (userId, name) w)
    (Sat.call_bind (fun _ => trivial) (fun found => ?_) fun _ => of_error)
    (fun w removed only => ?_) fun _ _ _ => trivial
  · refine Sat.mono (sat_deleteSecrets (v := (v.observe (.lock .users userId userId) (.ok user)).observe
      (.select .secrets (.of userId name : SecretQuery)) (.ok found)) found.value _ plainly ?_)
      fun _ _ deleted => deleted
    intro _ other mem
    rw [(clear.select (q := .of userId name) found).replaced] at mem
    cases mem
  · have only := only removed rfl
    split
    · exact Sat.call_bind (fun _ => trivial) (fun _ => trivial) fun _ => trivial
    · refine Sat.bind sat_dropCaches (fun x dropped drop => ?_) fun _ _ _ => trivial
      obtain ⟨same, left⟩ := drop dropped rfl
      refine Sat.bind sat_invalidateAttempts (fun y ended invalidate => ?_) fun _ _ _ => trivial
      obtain ⟨again, listed⟩ := invalidate ended rfl
      have settled : Settled (userId, name) y := fun sane =>
        ⟨again.replaced.trans same.replaced ▸ only (same.sane (again.sane sane)),
          listed.trans (left (again.sane sane))⟩
      exact Sat.call_bind (relies_commit settled) (fun _ => trivial) fun _ => trivial

/-! ### The calls -/

theorem sat_closing {Q : ConnectionView → Except ConnectionExn α → Prop} {p : ConnectionProgram α}
    (h : Sat (connectionProtocol env) Q v p) (error : ∀ w e, Q w (.error e))
    (rollback : ∀ w answer r, Q w r → Q (w.observe .rollback answer) r) :
    Sat (connectionProtocol env) Q v (closing p) := by
  have attempted : Sat (connectionProtocol env) (fun w outcome => ∀ r, outcome = .ok r → Q w r) v
      (Program.attempt p) := by
    refine sat_attempt.2 (h.mono fun w r holds r' same => ?_)
    cases same
    exact holds
  refine attempted.bind (fun w outcome holds => ?_) fun w e _ => error w e
  have rolled : Sat (connectionProtocol env) (fun x _ => Q x outcome) w
      (Program.attempt (execute .rollback)) := by
    refine sat_attempt.2 (sat_call.2 ⟨fun _ => trivial, fun answer => ?_⟩)
    exact rollback w answer outcome (holds outcome rfl)
  exact rolled.bind (fun x _ kept => sat_lift.2 kept) fun x e _ => error x e

/-- Only a test is superseded, and then it has written nothing that it has found. -/
def Ends (v : ConnectionView) (r : Except ConnectionExn ConnectionOutcome) : Prop :=
  ∀ row, r = .ok (.superseded row) → v.isTest = true ∧ v.concluded = false

theorem ends_error (v : ConnectionView) (e : ConnectionExn) : Ends v (.error e) := by
  rintro row ⟨⟩

/-- The end of a call that is no test. -/
theorem Abides.returns {p : ConnectionProgram α} {f : α → ConnectionOutcome} (h : Abides env v p)
    (other : ∀ a row, f a ≠ .superseded row) :
    Sat (connectionProtocol env) Ends v (p >>= fun a => Pure.pure (f a)) := by
  refine Sat.bind h (fun w a _ row same => ?_) fun w e _ => ends_error w e
  cases other a row (Except.ok.inj same)

theorem clear_start (isTest : Bool) : ConnectionView.Clear { isTest := isTest } :=
  ⟨fun _ => rfl, rfl, rfl⟩

/-- Every call follows the protocol. -/
theorem sat_program (call : ConnectionCall) :
    Sat (connectionProtocol env) Ends { isTest := call.isTest } (call.program env) := by
  refine sat_closing ?_ ends_error fun w answer r ends row same =>
    ⟨(w.isTest_observe .rollback answer).trans (ends row same).1,
      (ConnectionView.Onward.observe (s := .rollback) trivial answer).concluded.trans
        (ends row same).2⟩
  cases call with
  | save userId provider credentials =>
    exact (abides_storeUserCredentialsIfChanged rfl (clear_start _)).returns fun _ _ => nofun
  | delete userId provider =>
    exact (abides_deleteUserSecret rfl (clear_start _)).returns fun _ _ => nofun
  | test userId provider reference probe =>
    refine (Sat.keeps (Q := Superseded) (J := fun w => w.isTest = true) ?_ rfl ?_).mono
      fun _ _ h row same => ⟨h.2, h.1 row same⟩
    · exact sat_testUserConnection (clear_start true) rfl
    · exact fun w s answer test => (w.isTest_observe s answer).trans test
  | browse userId listings now =>
    exact (abides_plain (confined_browseAll listings [] now) rfl).returns fun _ _ => nofun

theorem connections_follow : (connectionWorkload env).Follows := fun call =>
  (sat_program call).mono fun _ _ _ => trivial

end Conformance

end Connections

end DataMover
