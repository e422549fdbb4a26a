import DataMover.Connections.Protocol

/-!
# What is true of the calls on connections

`Informed` says what is true of the database when this is known of a call, and `ConnectionInv` that
it is so for all calls in every interleaving: what a call was told was possible, a row that it has
read has only evolved, and a version of a credential that it has not committed is the committed one
until it replaces or deletes it.
-/

namespace DataMover

namespace Connections

open ReadCommitted Program Transition
open Credentials (UserSecret)

/-! ## Answers -/

section Served

variable {o : ConnectionOracle} {i : Nat} {db db' : Db schema} {s : ConnectionStmt}
  {r : Except ConnectionExn (ConnectionReply s)}

/-- An answer is an exception after a rollback or a commit, or the answer of the database. -/
theorem serve_cases (h : serve o i db s = some (r, db')) :
    (∃ e, r = .error e ∧
      (db' = db.rollback i ∨ s = .commit ∧ commits o s = true ∧ db' = db.commit i)) ∨
    ∃ reply : ConnectionReply s, o.raises = false ∧ db.exec i s = some (reply.value, db') ∧
      r = .ok reply := by
  unfold serve at h
  split_ifs at h with raises
  · cases h
    refine .inl ⟨_, rfl, ?_⟩
    unfold raised
    split
    · split_ifs with lost
      · exact .inr ⟨rfl, by rw [commits, lost, Bool.or_true], rfl⟩
      · exact .inl rfl
    · exact .inl rfl
  · obtain ⟨⟨answer, db''⟩, he, same⟩ := Option.map_eq_some_iff.1 h
    cases same
    exact .inr ⟨_, Bool.eq_false_iff.2 raises, he, rfl⟩

theorem serve_cell (h : serve o i db s = some (r, db')) (a : Addr schema) :
    CellStep i (db.cell a) (db'.cell a) := by
  rcases serve_cases h with ⟨e, -, rfl | ⟨-, -, rfl⟩⟩ | ⟨reply, -, he, -⟩
  · exact .rollback
  · exact .commit
  · exact exec_cell he a

/-- The transaction of a call is over; nothing else has changed. -/
structure ConnectionView.Over (v w : ConnectionView) : Prop where
  isTest : w.isTest = v.isTest
  sane : v.Sane → w.Sane
  tx : w.tx = {}
  loaded : w.loaded = v.loaded
  gone : w.gone = v.gone
  replaced : w.replaced = []
  claiming : w.claiming = none
  claimed : w.claimed = v.claimed ∨ w.claimed = v.claiming.or v.claimed
  concluded : w.concluded = v.concluded

/-- A statement rolls back, commits, maybe unknown to its call, or leaves what is committed alone
within its transaction. -/
theorem serve_kinds (h : serve o i db s = some (r, db')) (v : ConnectionView) :
    (v.Over (v.observe s r) ∧ (v.observe s r).claimed = v.claimed ∧ db' = db.rollback i) ∨
    (s = .commit ∧ commits o s = true ∧ v.Over (v.observe s r) ∧ db' = db.commit i) ∨
    ∃ reply : ConnectionReply s, s ≠ .commit ∧ s ≠ .rollback ∧ r = .ok reply ∧
      db.exec i s = some (reply.value, db') := by
  have ended : v.Over v.ended := ⟨rfl, id, rfl, rfl, rfl, rfl, rfl, .inl rfl, rfl⟩
  rcases serve_cases h with ⟨e, rfl, rfl | ⟨rfl, commits, rfl⟩⟩ | ⟨reply, quiet, he, rfl⟩
  · exact .inl ⟨ended, rfl, rfl⟩
  · exact .inr (.inl ⟨rfl, commits, ended, rfl⟩)
  · by_cases commit : s = .commit
    · subst commit
      cases he
      have over_ : v.Over (v.observe .commit (.ok reply)) :=
        ⟨rfl, fun sane => ⟨sane, trivial, trivial⟩, rfl, rfl, rfl, rfl, rfl, .inr rfl, rfl⟩
      exact .inr (.inl ⟨rfl, by rw [commits, quiet]; rfl, over_, rfl⟩)
    · by_cases rollback : s = .rollback
      · subst rollback
        cases he
        exact .inl ⟨⟨rfl, fun sane => ⟨sane, trivial, trivial⟩, rfl, rfl, rfl, rfl, rfl, .inl rfl,
          rfl⟩, rfl, rfl⟩
      · exact .inr (.inr ⟨reply, commit, rollback, rfl, he⟩)

end Served

/-! ## Rows of secrets -/

section Rows

variable {row row' : SecretRow} {db db' : Db schema} {i : Nat} {id : String}

/-- The owner of a credential that is there; there is one credential for each. -/
def liveOwner (row : SecretRow) : Option (String × String) :=
  if row.deleted = false then some row.owner else none

theorem owner_of_evolves (rel : Table.Evolves (t := .secrets) row row') : row'.owner = row.owner :=
  Prod.ext rel.2.1 rel.2.2.1

theorem live_of_evolves (rel : Table.Evolves (t := .secrets) row row') (live : row'.deleted = false) :
    row.deleted = false := by
  refine Bool.eq_false_iff.2 fun deleted => ?_
  rw [rel.2.2.2.1 deleted] at live
  cases live

theorem liveOwner_eq {owner : String × String} :
    liveOwner row = some owner ↔ row.deleted = false ∧ row.owner = owner := by
  rw [liveOwner, Option.ite_none_right_eq_some, Option.some.injEq]

theorem liveOwner_kept {owner : String × String} (rel : Table.Evolves (t := .secrets) row row')
    (later : liveOwner row' = some owner) : liveOwner row = some owner := by
  rw [liveOwner_eq] at later ⊢
  exact ⟨live_of_evolves rel later.1, (owner_of_evolves rel).symm.trans later.2⟩

theorem clashes_of_liveOwner {owner : String × String} (h : liveOwner row = some owner)
    (h' : liveOwner row' = some owner) : Table.clashes (t := .secrets) row row' = true := by
  rw [liveOwner_eq] at h h'
  have same := h'.2.trans h.2.symm
  exact decide_eq_true ⟨h.1, h'.1, congrArg Prod.fst same, congrArg Prod.snd same⟩

/-- There is one credential for each owner. -/
def OneEach (db : Db schema) : Prop := db.Distinct (S := schema) (t := Table.secrets) liveOwner

/-- No where clause selects a deleted row. -/
theorem live_of_holds {q : SecretQuery} (h : SecretQuery.holds row q = true) :
    row.deleted = false := by
  cases q with
  | stored => exact of_decide_eq_true h
  | id id' => exact (of_decide_eq_true h).1
  | of userId provider => exact (of_decide_eq_true h : row.Of userId provider).1
  | revision updatedAt => exact (of_decide_eq_true h).1
  | ownedAt userId provider updatedAt =>
    exact (of_decide_eq_true h : row.Of userId provider ∧ _).1.1
  | claimed userId provider updatedAt checkId =>
    exact (of_decide_eq_true h : row.Of userId provider ∧ _).1.1

/-- The same credential is stored. -/
structure SameCredential (row row' : SecretRow) : Prop where
  secret : row'.secret = row.secret
  deleted : row'.deleted = row.deleted

/-- What a test fills in is the same, and the revision. -/
structure SameHealth (row row' : SecretRow) : Prop where
  health : healthOf row'.toUserSecret = healthOf row.toUserSecret
  tokenExpiresAt : row'.tokenExpiresAt = row.tokenExpiresAt
  tokenExpirySource : row'.tokenExpirySource = row.tokenExpirySource
  updatedAt : row'.updatedAt = row.updatedAt

theorem SameCredential.refl (row : SecretRow) : SameCredential row row := ⟨rfl, rfl⟩

theorem SameHealth.refl (row : SecretRow) : SameHealth row row := ⟨rfl, rfl, rfl, rfl⟩

/-- The row is committed in a later version. -/
def StoredAs (db : Db schema) (row : SecretRow) : Prop :=
  ∃ r : SecretRow, (db.cell ⟨.secrets, row.secret.id⟩).committed = some r ∧
    Table.Evolves (t := .secrets) row r

/-- The deletion of the row is committed. -/
def IsDeleted (db : Db schema) (id : String) : Prop :=
  ∃ r : SecretRow, (db.cell ⟨.secrets, id⟩).committed = some r ∧ r.deleted = true

/-- A committed version of the row has the claim. -/
def IsClaimed (db : Db schema) (c : Claim) : Prop :=
  ∃ r : SecretRow, (db.cell ⟨.secrets, c.secretId⟩).committed = some r ∧
    (c.revision, c.checkId) ∈ r.claims

/-- What is committed only evolves. -/
def DbEvolves (db db' : Db schema) : Prop :=
  ∀ (a : Addr schema) r, (db.cell a).committed = some r →
    ∃ r', (db'.cell a).committed = some r' ∧ Table.Evolves (t := a.1) r r'

theorem StoredAs.evolves (h : StoredAs db row) (evolves : DbEvolves db db') : StoredAs db' row := by
  obtain ⟨r, committed, rel⟩ := h
  obtain ⟨r', committed', rel'⟩ := evolves ⟨.secrets, row.secret.id⟩ r committed
  exact ⟨r', committed', evolution.trans (t := .secrets) rel rel'⟩

theorem IsDeleted.evolves (h : IsDeleted db id) (evolves : DbEvolves db db') : IsDeleted db' id := by
  obtain ⟨r, committed, deleted⟩ := h
  obtain ⟨r', committed', rel⟩ := evolves ⟨.secrets, id⟩ r committed
  exact ⟨r', committed', rel.2.2.2.1 deleted⟩

theorem IsClaimed.evolves {c : Claim} (h : IsClaimed db c) (evolves : DbEvolves db db') :
    IsClaimed db' c := by
  obtain ⟨r, committed, mem⟩ := h
  obtain ⟨r', committed', rel⟩ := evolves ⟨.secrets, c.secretId⟩ r committed
  exact ⟨r', committed', rel.2.2.2.2.2.subset mem⟩

end Rows

/-! ## What is true of a call -/

section Knowledge

variable {env : ConnectionEnv} {db db' : Db schema} {i j : Nat} {v w : ConnectionView}

/-- The versions that the transaction `i` has locked, but those of these owners, have the credential
that is committed. -/
def KeepsCredentials (db : Db schema) (i : Nat) (replaced : List (String × String)) : Prop :=
  ∀ id (r : SecretRow), (db.cell ⟨.secrets, id⟩).held i = some r → r.owner ∉ replaced →
    ∃ r₀ : SecretRow, (db.cell ⟨.secrets, id⟩).committed = some r₀ ∧ SameCredential r₀ r

/-- The versions that the transaction `i` has locked have the health that is committed. -/
def KeepsHealth (db : Db schema) (i : Nat) : Prop :=
  ∀ id (r : SecretRow), (db.cell ⟨.secrets, id⟩).held i = some r →
    ∃ r₀ : SecretRow, (db.cell ⟨.secrets, id⟩).committed = some r₀ ∧ SameHealth r₀ r

/-- What is true of the transaction `i` when this is known of it. -/
structure Informed (db : Db schema) (i : Nat) (v : ConnectionView) : Prop where
  sane : v.Sane
  mirrors : v.tx.Mirrors db i
  loaded : ∀ row ∈ v.loaded, StoredAs db row
  gone : ∀ id ∈ v.gone, IsDeleted db id
  credentials : KeepsCredentials db i v.replaced
  health : v.isTest = true → v.concluded = false → KeepsHealth db i
  claiming : ∀ c, v.claiming = some c → ∃ r : SecretRow,
    (db.cell ⟨.secrets, c.secretId⟩).held i = some r ∧ (c.revision, c.checkId) ∈ r.claims
  claimed : ∀ c, v.claimed = some c → IsClaimed db c

/-! ### Statements of the transaction -/

section Within

variable {s : ConnectionStmt} {reply : ConnectionReply s} (h : Informed db i v)
  (commit : s ≠ .commit) (rollback : s ≠ .rollback) (he : db.exec i s = some (reply.value, db'))

/-- The row that an update was told is the one that it has written. -/
theorem value_update {id : String} {q : SecretQuery} {change : SecretChange} {r : SecretRow}
    {reply : ConnectionReply (.update .secrets id q change)}
    (he : db.exec i (.update .secrets id q change) = some (reply.value, db'))
    (seen : (db.cell ⟨.secrets, id⟩).visible i = some r) (holds : SecretQuery.holds r q = true) :
    (show Option SecretRow from reply.value) = some (SecretChange.apply r change) := by
  rcases Db.writeWhen_cases he with ⟨-, -, miss⟩ | ⟨r', seen', -, -, same, -⟩
  · have missed : SecretQuery.holds r q = false := miss r seen
    rw [missed] at holds
    cases holds
  · rw [seen] at seen'
    cases seen'
    exact same

/-- What a statement does to a row of secrets that its transaction sees. -/
inductive SecretStep (v : ConnectionView) (db db' : Db schema) (i : Nat) (id : String) :
    (s : ConnectionStmt) → ConnectionReply s → Prop
  | same {s : ConnectionStmt} {reply : ConnectionReply s}
      (held : (db'.cell ⟨.secrets, id⟩).held i = (db.cell ⟨.secrets, id⟩).held i) :
      SecretStep v db db' i id s reply
  | lock {s : ConnectionStmt} {reply : ConnectionReply s} {r : SecretRow}
      (seen : (db.cell ⟨.secrets, id⟩).visible i = some r)
      (held : (db'.cell ⟨.secrets, id⟩).held i = some r) : SecretStep v db db' i id s reply
  | update {q : SecretQuery} {change : SecretChange} {r : SecretRow}
      {reply : ConnectionReply (.update .secrets id q change)}
      (seen : (db.cell ⟨.secrets, id⟩).visible i = some r) (holds : SecretQuery.holds r q = true)
      (held : (db'.cell ⟨.secrets, id⟩).held i = some (SecretChange.apply r change))
      (observed : v.note (.update .secrets id q change) reply =
        v.updated (SecretChange.apply r change) change) :
      SecretStep v db db' i id (.update .secrets id q change) reply
  | insert {row : SecretRow} {reply : ConnectionReply (.insert .secrets row)}
      (key : row.secret.id = id) (held : (db'.cell ⟨.secrets, id⟩).held i = some row)
      (observed : v.note (.insert .secrets row) reply =
        { v with replaced := row.owner :: v.replaced }) :
      SecretStep v db db' i id (.insert .secrets row) reply

include commit rollback he

theorem secretStep (v : ConnectionView) (id : String) : SecretStep v db db' i id s reply := by
  rcases exec_within he commit rollback ⟨.secrets, id⟩ with same | ⟨r, seen, -, same⟩ |
    ⟨q, change, r, stmt, seen, holds, -, same⟩ | ⟨row, stmt, key, empty, same⟩
  · exact .same (by rw [same])
  · exact .lock seen (by rw [same, Cell.held_write]; rfl)
  · subst stmt
    have value := value_update he seen holds
    refine .update seen holds (by rw [same, Cell.held_write]; rfl) ?_
    simp only [ConnectionView.note, value]
  · subst stmt
    have value : (show Bool from reply.value) = true := by
      rcases Db.insert_cases he with ⟨-, rfl⟩ | ⟨added, -⟩
      · rw [empty] at same
        cases same
      · exact added
    refine .insert key (by rw [same, Cell.held_write]; rfl) ?_
    simp only [ConnectionView.note, value, if_true]

omit commit rollback he in
/-- A row that the transaction has not locked is seen as it is committed. -/
theorem Informed.committed_of_unlocked (h : Informed db i v) {id : String} {r : SecretRow}
    (unlocked : v.unlocked id = true) (seen : (db.cell ⟨.secrets, id⟩).visible i = some r) :
    (db.cell ⟨.secrets, id⟩).committed = some r := by
  have free : v.tx.held ⟨.secrets, id⟩ = none := Option.isNone_iff_eq_none.1 unlocked
  rw [h.mirrors] at free
  rwa [Cell.visible_of_not_held free] at seen

omit commit rollback he in
/-- What a transaction knows of the rows that it has read. -/
theorem Informed.read (h : Informed db i v) (distinct : OneEach db) {q : SecretQuery} :
    (∀ row ∈ (v.read (db.rows i .secrets q)).loaded, StoredAs db row) ∧
      ∀ id ∈ (v.read (db.rows i .secrets q)).gone, IsDeleted db id := by
  have seen : ∀ {row : SecretRow}, row ∈ (db.rows i .secrets q) → v.unlocked row.secret.id = true →
      (db.cell ⟨.secrets, row.secret.id⟩).committed = some row ∧ row.deleted = false :=
    fun found unlocked => ⟨h.committed_of_unlocked unlocked (Db.mem_rows.1 found).1,
      live_of_holds (Db.mem_rows.1 found).2⟩
  refine ⟨fun row mem => ?_, fun id mem => ?_⟩
  · rcases List.mem_append.1 mem with new | old
    · obtain ⟨found, unlocked⟩ := List.mem_filter.1 new
      exact ⟨row, (seen found unlocked).1, evolution.refl (t := .secrets) row⟩
    · exact h.loaded row old
  · rcases List.mem_append.1 mem with new | old
    · obtain ⟨row, found, rfl⟩ := List.mem_map.1 new
      obtain ⟨known, gone⟩ := List.mem_filter.1 found
      obtain ⟨unlocked, another⟩ := Bool.and_eq_true_iff.1 gone
      obtain ⟨other, found, differs⟩ := List.any_eq_true.1 another
      obtain ⟨found, unlocked⟩ := List.mem_filter.1 found
      obtain ⟨owner, apart⟩ := of_decide_eq_true differs
      obtain ⟨committed, live⟩ := seen found unlocked
      obtain ⟨r, committed', rel⟩ := h.loaded row known
      -- two rows of one owner are not both there
      refine ⟨r, committed', Bool.eq_true_of_not_eq_false fun still => apart ?_⟩
      exact distinct _ _ other r row.owner (Cell.mem_versions.2 (.inl committed))
        (Cell.mem_versions.2 (.inl committed')) (liveOwner_eq.2 ⟨live, owner⟩)
        (liveOwner_eq.2 ⟨still, owner_of_evolves rel⟩)
    · exact h.gone id old

include h

/-- What a transaction is told agrees with the rows that it has read. -/
theorem Informed.coherent (derived : ∀ a, (db.cell a).Derived evolution) :
    v.Coherent s reply.value := by
  cases s with
  | update t id q change =>
    cases t with
    | secrets =>
      intro row told
      rcases Db.writeWhen_cases he with ⟨missed, -⟩ | ⟨r, seen, holds, -, same, -⟩
      · cases missed.symm.trans told
      · obtain rfl : SecretChange.apply r change = row := Option.some.inj (same.symm.trans told)
        have owner : (SecretChange.apply r change).owner = (show SecretRow from r).owner :=
          owner_of_evolves (evolution.apply (t := .secrets) change r)
        refine ⟨fun mem => ?_, fun known mem same => ?_⟩
        · obtain ⟨r₀, committed, deleted⟩ := h.gone id mem
          have rel := (derived ⟨.secrets, id⟩).visible committed seen
          have live := live_of_evolves rel (live_of_holds holds)
          rw [deleted] at live
          cases live
        · obtain ⟨r₀, committed, rel⟩ := h.loaded known mem
          rw [same] at committed
          have rel' := (derived ⟨.secrets, id⟩).visible committed seen
          exact (owner.trans ((owner_of_evolves rel').trans (owner_of_evolves rel))).symm
    | _ => trivial
  | _ => trivial

/-- Its own statements keep what a transaction knows of the rows that it has read. -/
theorem Informed.read_observe (distinct : OneEach db) :
    (∀ row ∈ (v.observe s (.ok reply)).loaded, StoredAs db row) ∧
      ∀ id ∈ (v.observe s (.ok reply)).gone, IsDeleted db id := by
  have noted := v.noted reply
  simp only [ConnectionView.observe]
  generalize v.note s reply = w at noted ⊢
  cases noted with
  | @read q reply =>
    have found : db.rows i .secrets q = reply.value := congrArg Prod.fst (Option.some.inj he)
    have read := h.read distinct (q := q)
    rw [found] at read
    exact read
  | _ => exact ⟨h.loaded, h.gone⟩

omit h in
/-- A transaction replaces or deletes the credentials whose versions differ from the committed
ones. -/
theorem KeepsCredentials.within (kept : KeepsCredentials db i v.replaced) :
    KeepsCredentials db' i (v.observe s (.ok reply)).replaced := by
  intro id r held other
  have uncommitted : (db'.cell ⟨.secrets, id⟩).committed = (db.cell ⟨.secrets, id⟩).committed :=
    exec_committed he commit _
  rw [uncommitted]
  have before : ∀ r : SecretRow, (db.cell ⟨.secrets, id⟩).visible i = some r →
      r.owner ∉ v.replaced →
      ∃ r₀ : SecretRow, (db.cell ⟨.secrets, id⟩).committed = some r₀ ∧ SameCredential r₀ r := by
    intro r seen other
    rcases Option.or_eq_some_iff.1 seen with held | ⟨-, committed⟩
    · exact kept id r held other
    · exact ⟨r, committed, .refl r⟩
  have unreplaced : ∀ {owner}, owner ∉ (v.observe s (.ok reply)).replaced → owner ∉ v.replaced :=
    fun absent mem => absent (ConnectionView.replaced_subset commit rollback mem)
  cases secretStep commit rollback he v id with
  | same same => exact before r (Cell.visible_of_held (same ▸ held)) (unreplaced other)
  | lock seen locked =>
    cases locked.symm.trans held
    exact before r seen (unreplaced other)
  | @update q change r₁ reply seen holds written observed =>
    cases written.symm.trans held
    have owner : (SecretChange.apply r₁ change).owner = r₁.owner :=
      owner_of_evolves (evolution.apply (t := .secrets) change r₁)
    have apart := unreplaced other
    rw [owner] at apart
    obtain ⟨r₀, committed, same⟩ := before r₁ seen apart
    refine ⟨r₀, committed, ?_⟩
    have quiet : change.replaces = false := by
      refine Bool.eq_false_iff.2 fun replaces => other ?_
      simp only [ConnectionView.observe, observed, ConnectionView.updated, replaces, if_true]
      exact List.mem_cons_self
    cases change with
    | touch now => exact ⟨same.secret, same.deleted⟩
    | claim checkId => exact ⟨same.secret, same.deleted⟩
    | conclude finding => exact ⟨same.secret, same.deleted⟩
    | save loaded saved now => cases quiet
    | delete => cases quiet
  | insert key written observed =>
    cases written.symm.trans held
    refine absurd ?_ other
    simp only [ConnectionView.observe, observed]
    exact List.mem_cons_self

omit h in
/-- A test that has not concluded leaves the health of the committed rows alone. -/
theorem KeepsHealth.within (relies : v.Relies env s)
    (kept : v.isTest = true → v.concluded = false → KeepsHealth db i) (test : v.isTest = true)
    (quiet : (v.observe s (.ok reply)).concluded = false) : KeepsHealth db' i := by
  intro id r held
  have uncommitted : (db'.cell ⟨.secrets, id⟩).committed = (db.cell ⟨.secrets, id⟩).committed :=
    exec_committed he commit _
  rw [uncommitted]
  have before : ∀ r : SecretRow, (db.cell ⟨.secrets, id⟩).visible i = some r →
      ∃ r₀ : SecretRow, (db.cell ⟨.secrets, id⟩).committed = some r₀ ∧ SameHealth r₀ r := by
    intro r seen
    rcases Option.or_eq_some_iff.1 seen with held | ⟨-, committed⟩
    · exact kept test (ConnectionView.concluded_observe quiet) id r held
    · exact ⟨r, committed, .refl r⟩
  cases secretStep commit rollback he v id with
  | same same => exact before r (Cell.visible_of_held (same ▸ held))
  | lock seen locked =>
    cases locked.symm.trans held
    exact before r seen
  | @update q change r₁ reply seen holds written observed =>
    cases written.symm.trans held
    obtain ⟨r₀, committed, same⟩ := before r₁ seen
    refine ⟨r₀, committed, ?_⟩
    have own : v.MayUpdate env id q change := relies
    cases change with
    | touch now => exact ⟨same.health, same.tokenExpiresAt, same.tokenExpirySource, same.updatedAt⟩
    | claim checkId =>
      exact ⟨same.health, same.tokenExpiresAt, same.tokenExpirySource, same.updatedAt⟩
    | conclude finding =>
      simp only [ConnectionView.observe, observed, ConnectionView.updated] at quiet
      cases quiet
    | save loaded saved now => cases test.symm.trans own.1
    | delete => cases test.symm.trans own
  | insert key written observed => cases test.symm.trans (show v.MayInsert _ from relies).1

omit h in
/-- The row that a transaction has claimed is locked. -/
theorem claiming_within (kept : ∀ c, v.claiming = some c → ∃ r : SecretRow,
      (db.cell ⟨.secrets, c.secretId⟩).held i = some r ∧ (c.revision, c.checkId) ∈ r.claims)
    {c : Claim} (claiming : (v.observe s (.ok reply)).claiming = some c) : ∃ r : SecretRow,
      (db'.cell ⟨.secrets, c.secretId⟩).held i = some r ∧ (c.revision, c.checkId) ∈ r.claims := by
  have old : v.claiming = some c → ∃ r : SecretRow,
      (db'.cell ⟨.secrets, c.secretId⟩).held i = some r ∧ (c.revision, c.checkId) ∈ r.claims := by
    intro before
    obtain ⟨r, held, mem⟩ := kept c before
    obtain ⟨r', held', rel⟩ := exec_held evolution he commit rollback held
    exact ⟨r', held', rel.2.2.2.2.2.subset mem⟩
  have noted := v.noted reply
  simp only [ConnectionView.observe] at claiming
  generalize v.note s reply = w at noted claiming
  cases noted with
  | @updated id q change row reply written =>
    cases change with
    | claim checkId =>
      cases claiming
      rcases Db.writeWhen_cases he with ⟨missed, -, -⟩ | ⟨r, seen, holds, -, met, rfl⟩
      · cases missed.symm.trans written
      · obtain rfl : SecretChange.apply r (.claim checkId) = row :=
          Option.some.inj (met.symm.trans written)
        exact ⟨_, Db.held_write .., List.mem_cons_self⟩
    | _ => exact old claiming
  | committed => exact absurd rfl commit
  | ended => exact absurd rfl rollback
  | _ => exact old claiming

omit rollback h in
/-- A statement within a transaction leaves what is committed alone. -/
theorem evolves_within : DbEvolves db db' := fun a r committed =>
  ⟨r, (exec_committed he commit a).trans committed, evolution.refl r⟩

/-- What is known of a transaction stays true with its next statement. -/
theorem Informed.within (relies : v.Relies env s) (derived : ∀ a, (db.cell a).Derived evolution)
    (distinct : OneEach db) : Informed db' i (v.observe s (.ok reply)) where
  sane := ⟨h.sane, h.mirrors.possible he, h.coherent commit rollback he derived⟩
  mirrors := h.mirrors.observe _ he
  loaded row mem :=
    ((h.read_observe commit rollback he distinct).1 row mem).evolves (evolves_within commit he)
  gone id mem :=
    ((h.read_observe commit rollback he distinct).2 id mem).evolves (evolves_within commit he)
  credentials := h.credentials.within commit rollback he
  health test quiet := .within commit rollback he relies h.health
    ((v.isTest_observe s _).symm.trans test) quiet
  claiming _ claiming := claiming_within commit rollback he h.claiming claiming
  claimed _ claimed := (h.claimed _ ((ConnectionView.claimed_observe commit).symm.trans claimed)).evolves
    (evolves_within commit he)

end Within

/-- What is known of a transaction stays true with the statements of another. -/
theorem Informed.other (h : Informed db j w) (ne : j ≠ i)
    (steps : ∀ a, CellStep i (db.cell a) (db'.cell a))
    (derived : ∀ a, (db.cell a).Derived evolution) : Informed db' j w := by
  have evolves : DbEvolves db db' := fun a r committed => (steps a).evolves (derived a) committed
  have same : ∀ {id} {r : SecretRow}, (db'.cell ⟨.secrets, id⟩).held j = some r →
      (db.cell ⟨.secrets, id⟩).held j = some r ∧
        (db'.cell ⟨.secrets, id⟩).committed = (db.cell ⟨.secrets, id⟩).committed := by
    intro id r held
    rw [(steps _).held_of_ne ne] at held
    exact ⟨held, (steps _).committed_of_held ne held⟩
  exact {
    sane := h.sane
    mirrors := h.mirrors.other steps ne
    loaded := fun row mem => (h.loaded row mem).evolves evolves
    gone := fun id mem => (h.gone id mem).evolves evolves
    credentials := fun id r held apart => by
      rw [(same held).2]
      exact h.credentials id r (same held).1 apart
    health := fun test quiet id r held => by
      rw [(same held).2]
      exact h.health test quiet id r (same held).1
    claiming := fun c claiming => by
      obtain ⟨r, held, mem⟩ := h.claiming c claiming
      exact ⟨r, ((steps _).held_of_ne ne).trans held, mem⟩
    claimed := fun c claimed => (h.claimed c claimed).evolves evolves }

/-- What is known of a call when its transaction is over. -/
theorem Informed.over (h : Informed db i v) (ended : v.Over w)
    (steps : ∀ a, CellStep i (db.cell a) (db'.cell a))
    (derived : ∀ a, (db.cell a).Derived evolution) (clear : ∀ a, (db'.cell a).held i = none)
    (claimed : ∀ c, w.claimed = some c → IsClaimed db' c) : Informed db' i w := by
  have evolves : DbEvolves db db' := fun a r committed => (steps a).evolves (derived a) committed
  exact {
    sane := ended.sane h.sane
    mirrors := by
      rw [ended.tx]
      exact Tx.mirrors_reset clear
    loaded := fun row mem => (h.loaded row (ended.loaded ▸ mem)).evolves evolves
    gone := fun id mem => (h.gone id (ended.gone ▸ mem)).evolves evolves
    credentials := fun id r held => nomatch (clear _).symm.trans held
    health := fun _ _ id r held => nomatch (clear _).symm.trans held
    claiming := fun c claiming => nomatch ended.claiming.symm.trans claiming
    claimed := claimed }

theorem informed_call (clear : ∀ a, (db.cell a).held i = none) (isTest : Bool) :
    Informed db i { isTest := isTest } where
  sane := trivial
  mirrors := Tx.mirrors_reset clear
  loaded _ mem := absurd mem List.not_mem_nil
  gone _ mem := absurd mem List.not_mem_nil
  credentials _ _ held := nomatch (clear _).symm.trans held
  health _ _ _ _ held := nomatch (clear _).symm.trans held
  claiming _ claiming := absurd claiming.symm (Option.some_ne_none _)
  claimed _ claimed := absurd claimed.symm (Option.some_ne_none _)

end Knowledge

/-! ## Runs -/

/-- At first there is no connection, no cached catalog and no open transaction. -/
def Unconnected (db : Db schema) : Prop :=
  (∀ a, (db.cell a).lock = none) ∧ (∀ k, db.cell ⟨.secrets, k⟩ = {}) ∧
    ∀ k, db.cell ⟨.caches, k⟩ = {}

abbrev ConnectionPool := Pool ConnectionReply ConnectionExn ConnectionOutcome ConnectionView (Db schema)

/-- All interleavings of calls on connections. -/
def connectionSystem (env : ConnectionEnv) :
    System ConnectionPool (Turn ConnectionCall ConnectionOracle) :=
  (connectionWorkload env).system Unconnected

/-- What holds of the database and of the views of all calls. -/
structure ConnectionInv (db : Db schema) (views : List ConnectionView) : Prop where
  informed : ∀ i v, views[i]? = some v → Informed db i v
  absent : ∀ i, views[i]? = none → ∀ a, (db.cell a).held i = none
  derived : ∀ a, (db.cell a).Derived evolution
  distinct : OneEach db

section Runs

variable {env : ConnectionEnv} {db db' : Db schema} {views : List ConnectionView} {i j : Nat}
  {v v' w : ConnectionView} {o : ConnectionOracle} {s : ConnectionStmt}
  {r : Except ConnectionExn (ConnectionReply s)}

theorem OneEach.exec {answer : s.Answer} (h : OneEach db) (he : db.exec i s = some (answer, db')) :
    OneEach db' :=
  Db.Distinct.exec evolution h (fun _ _ _ => liveOwner_kept) (fun _ _ _ => clashes_of_liveOwner) he

theorem OneEach.serve (h : OneEach db) (served : serve o i db s = some (r, db')) : OneEach db' := by
  rcases serve_cases served with ⟨e, -, rfl | ⟨-, -, rfl⟩⟩ | ⟨reply, -, he, -⟩
  · exact h.exec (s := .rollback) rfl
  · exact h.exec (s := .commit) rfl
  · exact h.exec he

/-- The invariant is kept by an answer. -/
theorem ConnectionInv.serve (inv : ConnectionInv db views) (hi : views[i]? = some v)
    (allowed : v.Sane → v.Relies env s) (h : serve o i db s = some (r, db')) :
    ConnectionInv db' (views.set i (v.observe s r)) where
  informed j w hj := by
    have known := inv.informed i v hi
    rcases Workload.getElem?_set_cases hj with ⟨rfl, rfl⟩ | ⟨other, hj⟩
    · rcases serve_kinds h v with ⟨over_, same, rfl⟩ | ⟨-, -, over_, rfl⟩ |
        ⟨reply, commit, rollback, rfl, he⟩
      · refine known.over over_ (fun _ => .rollback) inv.derived (fun a => Cell.held_rollback)
          fun c claimed => ?_
        exact (known.claimed c (same ▸ claimed)).evolves
          fun a _ => CellStep.rollback.evolves (inv.derived a)
      · refine known.over over_ (fun _ => .commit) inv.derived (fun a => Cell.held_commit)
          fun c claimed => ?_
        have before : v.claimed = some c → IsClaimed (db.commit j) c := fun before =>
          (known.claimed c before).evolves fun a _ => CellStep.commit.evolves (inv.derived a)
        rcases over_.claimed with same | same
        · exact before (same ▸ claimed)
        · rcases Option.or_eq_some_iff.1 (same ▸ claimed) with claiming | ⟨-, old⟩
          · obtain ⟨r, held, mem⟩ := known.claiming c claiming
            exact ⟨r, Cell.committed_commit.trans (Cell.visible_of_held held), mem⟩
          · exact before old
      · exact known.within commit rollback he (allowed known.sane) inv.derived inv.distinct
    · exact (inv.informed j w hj).other other (serve_cell h) inv.derived
  absent j hj a := by
    have other : j ≠ i := by
      rintro rfl
      rw [Workload.getElem?_set_self _ hi] at hj
      cases hj
    rw [List.getElem?_set_ne other.symm] at hj
    exact ((serve_cell h a).held_of_ne other).trans (inv.absent j hj a)
  derived a := (serve_cell h a).derived (inv.derived a)
  distinct := inv.distinct.serve h

theorem connectionInv_start (h : Unconnected db) : ConnectionInv db [] where
  informed i v hi := by simp at hi
  absent i _ a := by simp [Cell.held, h.1]
  derived a i r r' _ held := by simp [Cell.held, h.1] at held
  distinct k k' r r' x mem := by
    rw [h.2.1 k] at mem
    cases mem

/-- The views after a call has started. -/
theorem getElem?_call {views : List ConnectionView} {isTest : Bool}
    (h : (views ++ [({ isTest := isTest } : ConnectionView)])[j]? = some w) :
    views[j]? = some w ∨ views[j]? = none ∧ w = { isTest := isTest } := by
  rw [List.getElem?_append] at h
  split_ifs at h with bound
  · exact .inl h
  · rw [List.getElem?_singleton] at h
    split_ifs at h
    cases h
    exact .inr ⟨List.getElem?_eq_none (by omega), rfl⟩

theorem ConnectionInv.call (inv : ConnectionInv db views) (isTest : Bool) :
    ConnectionInv db (views ++ [({ isTest := isTest } : ConnectionView)]) := by
  refine { inv with informed := fun j w hj => ?_, absent := fun j hj => ?_ }
  · rcases getElem?_call hj with hj | ⟨absent, rfl⟩
    · exact inv.informed j w hj
    · exact informed_call (inv.absent j absent) isTest
  · refine inv.absent j ?_
    rw [List.getElem?_eq_none_iff] at hj ⊢
    rw [List.length_append] at hj
    omega

theorem reachable_connectionInv {s : ConnectionPool} (h : (connectionSystem env).Reachable s) :
    ConnectionInv s.shared s.views := by
  refine Workload.invariant connections_follow (I := ConnectionInv) ?_ ?_ ?_ h
  · exact fun db unconnected => connectionInv_start unconnected
  · exact fun db views call inv => inv.call call.isTest
  · intro db views i o v s r db' inv hi allowed served
    exact inv.serve hi allowed served

end Runs

end Connections

end DataMover
