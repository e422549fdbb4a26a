import DataMover.Auth.Conformance

/-!
# What is true of a call

Sessions, resets and verifications are issued for a user under a lock, and are open until they are
revoked or used.  `Knows` says what is true of the database when a transaction is known to have
locked, listed, issued or used up rows.  It is kept by the statements of the transaction
(`Knows.within`) and by those of the others (`Knows.other`), because two transactions never hold the
lock of one user at once.
-/

namespace DataMover

open ReadCommitted Program

/-! ## Issued rows -/

namespace AuthTable

/-- The user of a session, a reset or a verification that is not over. -/
def openFor : {t : AuthTable} → t.Row → Option String
  | sessions, (r : SessionRow) => if r.revokedAt = none then some r.userId else none
  | resets, (r : PasswordReset) => if r.usedAt = none then some r.userId else none
  | verifications, (r : RegistrationVerification) =>
    if r.usedAt = none then some r.userId else none
  | _, _ => none

/-- The security version that a session or a reset was issued on. -/
def basis : {t : AuthTable} → t.Row → Option Nat
  | sessions, (r : SessionRow) => some r.basis
  | resets, (r : PasswordReset) => some r.basis
  | _, _ => none

/-- The token of the row was used. -/
def used : {t : AuthTable} → t.Row → Bool
  | resets, (r : PasswordReset) => r.usedAt.isSome
  | verifications, (r : RegistrationVerification) => r.usedAt.isSome
  | invitations, (r : Invitation) => r.acceptedAt.isSome
  | _, _ => false

def tokenHash : {t : AuthTable} → t.Row → Option String
  | resets, (r : PasswordReset) => some r.tokenHash
  | verifications, (r : RegistrationVerification) => some r.tokenHash
  | invitations, (r : Invitation) => some r.tokenHash
  | _, _ => none

/-- The row whose lock protects what is issued for a user. -/
def guardian : AuthTable → String → Addr authSchema
  | verifications, _ => ⟨.roles, "user"⟩
  | _, userId => ⟨.users, userId⟩

variable {t : AuthTable} {r r' : t.Row} {userId : String}

theorem openFor_of_evolves (h : Evolves r r') (later : openFor r' = some userId) :
    openFor r = some userId := by
  cases t with
  | sessions =>
    obtain ⟨-, owner, -, revoked⟩ := h
    simp only [openFor, Option.ite_none_right_eq_some, Option.some.injEq] at later ⊢
    exact ⟨by_contra fun over_ => revoked over_ later.1, owner ▸ later.2⟩
  | resets =>
    obtain ⟨-, owner, -, -, used⟩ := h
    simp only [openFor, Option.ite_none_right_eq_some, Option.some.injEq] at later ⊢
    exact ⟨by_contra fun over_ => used over_ later.1, owner ▸ later.2⟩
  | verifications =>
    obtain ⟨-, owner, -, used⟩ := h
    simp only [openFor, Option.ite_none_right_eq_some, Option.some.injEq] at later ⊢
    exact ⟨by_contra fun over_ => used over_ later.1, owner ▸ later.2⟩
  | _ => cases later

theorem basis_of_evolves (h : Evolves r r') : basis r' = basis r := by
  cases t with
  | sessions => exact congrArg some h.2.2.1
  | resets => exact congrArg some h.2.2.1
  | _ => rfl

theorem tokenHash_of_evolves (h : Evolves r r') : tokenHash r' = tokenHash r := by
  cases t with
  | resets => exact congrArg some h.2.2.2.1
  | verifications => exact congrArg some h.2.2.1
  | invitations => exact congrArg some h.2.2.1
  | _ => rfl

theorem tokenHash_kept {token : String} (h : Evolves r r') (later : tokenHash r' = some token) :
    tokenHash r = some token :=
  (tokenHash_of_evolves h).symm.trans later

theorem used_of_evolves (h : Evolves r r') (before : used r = true) : used r' = true := by
  cases t with
  | resets =>
    obtain ⟨-, -, -, -, used⟩ := h
    exact Option.isSome_iff_ne_none.2 (used (Option.isSome_iff_ne_none.1 before))
  | verifications =>
    obtain ⟨-, -, -, used⟩ := h
    exact Option.isSome_iff_ne_none.2 (used (Option.isSome_iff_ne_none.1 before))
  | invitations =>
    obtain ⟨-, -, -, used, -⟩ := h
    exact Option.isSome_iff_ne_none.2 (used (Option.isSome_iff_ne_none.1 before))
  | _ => cases before

/-- Rows with equal token hashes agree in a unique column. -/
theorem clashes_of_tokenHash {h : String} (hr : tokenHash r = some h)
    (hr' : tokenHash r' = some h) : clashes r r' = true := by
  cases t with
  | resets => exact decide_eq_true (Option.some.inj (hr.trans hr'.symm))
  | verifications => exact decide_eq_true (Option.some.inj (hr.trans hr'.symm))
  | invitations => exact decide_eq_true (Option.some.inj (hr.trans hr'.symm))
  | _ => cases hr

end AuthTable

section Open

variable {userId : String}

theorem openFor_iff {a : Prop} {owner : String} [Decidable a] :
    decide (owner = userId ∧ a) = true ↔ (if a then some owner else none) = some userId := by
  rw [decide_eq_true_iff, Option.ite_none_right_eq_some, Option.some.injEq, and_comm]

theorem openOf_sessions (r : SessionRow) :
    AuthTable.holds (t := .sessions) (.openOf userId : SessionQuery) r = true ↔
      AuthTable.openFor (t := .sessions) r = some userId :=
  openFor_iff

theorem openOf_resets (r : PasswordReset) :
    AuthTable.holds (t := .resets) (.openOf userId : ResetQuery) r = true ↔
      AuthTable.openFor (t := .resets) r = some userId :=
  openFor_iff

theorem openOf_verifications (r : RegistrationVerification) :
    AuthTable.holds (t := .verifications) (.openOf userId : VerificationQuery) r = true ↔
      AuthTable.openFor (t := .verifications) r = some userId :=
  openFor_iff

/-- A protected list holds what is open for a user, under the lock that protects it. -/
theorem AuthView.protects_spec {v : AuthView} {t : AuthTable} {q : t.Query}
    (h : v.protects t q = true) : ∃ userId,
      (v.tx.held (t.guardian userId)).isSome = true ∧
      ∀ r, AuthTable.holds q r = true ↔ AuthTable.openFor r = some userId := by
  cases t with
  | sessions =>
    cases q with
    | openOf userId => exact ⟨userId, h, openOf_sessions⟩
    | _ => cases h
  | resets =>
    cases q with
    | openOf userId => exact ⟨userId, h, openOf_resets⟩
    | _ => cases h
  | verifications =>
    cases q with
    | openOf userId => exact ⟨userId, h, openOf_verifications⟩
    | _ => cases h
  | _ => cases h

end Open

/-! ## Knowledge -/

/-- The row of a table that the transaction has inserted. -/
def AuthView.issued (v : AuthView) : (t : AuthTable) → Option t.Row
  | .sessions => v.opening
  | .resets => v.issuing
  | .verifications => v.verifying
  | _ => none

/-- The transaction holds the lock under which rows are issued for a user. -/
def AuthView.Guards (v : AuthView) (t : AuthTable) (userId : String) : Prop :=
  (v.tx.held (t.guardian userId)).isSome = true

/-- The rows of a table that the transaction sees open for a user are among these. -/
def OpenAmong (db : Db authSchema) (i : Nat) (t : AuthTable) (userId : String)
    (keys : List String) : Prop :=
  ∀ k r, (db.cell ⟨t, k⟩).visible i = some r → AuthTable.openFor r = some userId → k ∈ keys

/-- The row's token was used, and the call presented it. -/
def Spent (env : AuthEnv) (call : AuthCall) {t : AuthTable} (r : t.Row) : Prop :=
  AuthTable.used r = true ∧
    ∃ hash, AuthTable.tokenHash r = some hash ∧ call.presents env = some (t, hash)

/-- The transaction has used up the row's token, which was not used before. -/
structure Uses (env : AuthEnv) (db : Db authSchema) (i : Nat) (v : AuthView) (a : Addr authSchema) :
    Prop where
  spent : ∃ r, (db.cell a).held i = some r ∧ Spent env v.call (t := a.1) r
  unused : ∀ r, (db.cell a).committed = some r → AuthTable.used (t := a.1) r = false
  verification : a.1 = .verifications → (db.cell a).committed ≠ none

/-- The row was read and has been committed. -/
def WasRead (db : Db authSchema) (r : RegistrationVerification) : Prop :=
  ∃ r', (db.cell ⟨.verifications, r.id⟩).committed = some r' ∧
    AuthTable.Evolves (t := .verifications) r r'

/-- What is true of the transaction `i` when this is known of it. -/
structure Knows (env : AuthEnv) (db : Db authSchema) (i : Nat) (v : AuthView) : Prop where
  sane : v.Sane
  mirrors : v.tx.Mirrors db i
  lists : ∀ t, v.tx.Lists db i t
  guarded : ∀ (t : AuthTable) (q : t.Query) keys, v.tx.listed t = some (q, keys) →
    v.protects t q = true
  version : ∀ userId (w c : User), (db.cell ⟨.users, userId⟩).held i = some w →
    (db.cell ⟨.users, userId⟩).committed = some c → w.securityVersion = c.securityVersion ∨
      v.bumped = true ∧ w.securityVersion = c.securityVersion + 1 ∧
        OpenAmong db i .sessions userId [] ∧ OpenAmong db i .resets userId []
  inserted : ∀ (t : AuthTable) k (r : t.Row) userId, (db.cell ⟨t, k⟩).New i r →
    AuthTable.openFor r = some userId →
      ∃ o, v.issued t = some o ∧ AuthTable.key o = k ∧ AuthTable.Evolves o r
  issued : ∀ (t : AuthTable) (o : t.Row) userId, v.issued t = some o →
    AuthTable.openFor o = some userId → v.Guards t userId ∧
      (∀ version, AuthTable.basis o = some version → v.Locks userId version) ∧
      (t ≠ .sessions → OpenAmong db i t userId [AuthTable.key o])
  uses : ∀ a, v.consuming = some a → Uses env db i v a
  used : ∀ a, v.consumed = some a →
    ∃ r, (db.cell a).committed = some r ∧ Spent env v.call (t := a.1) r
  unused : ∀ r, v.unused = some r → WasRead db r
  checked : ∀ r, v.checked = some r → WasRead db r
  reads : ∀ l ∈ v.sessions, l.row.revokedAt = none → l.asOf ≤ l.row.basis

/-- Open sessions and resets were issued on the current version of their user. -/
def Current (db : Db authSchema) : Prop :=
  ∀ (t : AuthTable) k (r : t.Row) userId version, (db.cell ⟨t, k⟩).committed = some r →
    AuthTable.openFor r = some userId → AuthTable.basis r = some version →
      ∃ user : User, (db.cell ⟨.users, userId⟩).committed = some user ∧
        user.securityVersion = version

section Knowledge

variable {env : AuthEnv} {db db' : Db authSchema} {i j : Nat} {v w : AuthView} {t : AuthTable}
  {userId : String}

theorem Spent.evolves {call : AuthCall} {r r' : t.Row} (h : Spent env call r)
    (rel : AuthTable.Evolves r r') : Spent env call r' := by
  obtain ⟨used, hash, token, presents⟩ := h
  exact ⟨AuthTable.used_of_evolves rel used, hash, (AuthTable.tokenHash_of_evolves rel).trans token,
    presents⟩

/-- A transaction that guards a user excludes the others. -/
theorem Knows.exclusive (hi : Knows env db i v) (hj : Knows env db j w) (vi : v.Guards t userId)
    (wj : w.Guards t userId) : i = j :=
  hi.mirrors.exclusive hj.mirrors vi wj

theorem AuthView.Locks.guards {version : Nat} (h : v.Locks userId version)
    (other : t ≠ .verifications) : v.Guards t userId := by
  obtain ⟨-, user, held, -⟩ := h
  cases t with
  | verifications => exact absurd rfl other
  | _ => exact congrArg Option.isSome held

/-- What is open is in the list. -/
theorem openAmong_of_listed {q : t.Query} {keys : List String} (lists : v.tx.Lists db i t)
    (listed : v.tx.listed t = some (q, keys))
    (matching : ∀ r, AuthTable.holds q r = true ↔ AuthTable.openFor r = some userId) :
    OpenAmong db i t userId keys :=
  fun k r seen open_ => lists q keys listed k r seen ((matching r).2 open_)

/-! ### Statements of the transaction -/

section Within

variable {s : AuthStmt} {answer : s.Answer} {now : Time} {drawn : Nat → String}

/-- The view after an answer. -/
abbrev AuthView.answered (v : AuthView) (db : Db authSchema) (s : AuthStmt) (answer : s.Answer)
    (now : Time) (drawn : Nat → String) : AuthView :=
  v.observe s (.ok { value := answer, now := now, fresh := drawn, versions := versionOf db })

/-- The statement neither commits nor rolls back. -/
def Inner (s : AuthStmt) : Prop := s ≠ .commit ∧ s ≠ .rollback

theorem guards_within (h : v.tx.Mirrors db i) (inner : Inner s)
    (he : db.exec i s = some (answer, db')) (guards : v.Guards t userId) :
    (v.answered db s answer now drawn).Guards t userId := by
  have h' := h.observe v.protects he (t.guardian userId)
  obtain ⟨r, held⟩ := Option.isSome_iff_exists.1 guards
  rw [h] at held
  obtain ⟨r', held', -⟩ := exec_held authEvolution he inner.1 inner.2 held
  exact Option.isSome_iff_exists.2 ⟨r', h'.trans held'⟩

/-- The columns of a user that are no credentials. -/
theorem securityVersion_apply {change : UserChange} (user : User)
    (old : AuthTable.newVersion (t := .users) change = none) :
    (UserChange.apply user change).securityVersion = user.securityVersion := by
  cases change with
  | credentials hash version => cases old
  | _ => rfl

theorem protects_within (h : v.tx.Mirrors db i) (inner : Inner s)
    (he : db.exec i s = some (answer, db')) {q : t.Query} (protects : v.protects t q = true) :
    (v.answered db s answer now drawn).protects t q = true := by
  have kept : ∀ t userId, v.Guards t userId →
      (v.answered db s answer now drawn).Guards t userId :=
    fun _ _ => guards_within h inner he
  cases t with
  | sessions =>
    cases q with
    | openOf userId => exact kept .sessions userId protects
    | _ => cases protects
  | resets =>
    cases q with
    | openOf userId => exact kept .resets userId protects
    | _ => cases protects
  | verifications =>
    cases q with
    | openOf userId => exact kept .verifications userId protects
    | _ => cases protects
  | _ => cases protects

/-- What is listed stays protected. -/
theorem guarded_within (h : Knows env db i v) (inner : Inner s)
    (he : db.exec i s = some (answer, db')) {q : t.Query} {keys : List String}
    (listed : (v.answered db s answer now drawn).tx.listed t = some (q, keys)) :
    (v.answered db s answer now drawn).protects t q = true := by
  refine protects_within h.mirrors inner he ?_
  rcases Tx.listed_observe listed with ⟨old, before⟩ | ⟨-, protects⟩
  · exact h.guarded t q old before
  · exact protects

theorem openAmong_within {keys : List String} (h : OpenAmong db i t userId keys) (inner : Inner s)
    (he : db.exec i s = some (answer, db'))
    (insert : ∀ r : t.Row, s = .insert t r → AuthTable.openFor r = some userId →
      AuthTable.key r ∈ keys) : OpenAmong db' i t userId keys := by
  intro k r' seen' open'
  rcases exec_visible authEvolution he inner.1 inner.2 seen' with ⟨r, seen, rel⟩ | ⟨same, key⟩
  · exact h k r seen (AuthTable.openFor_of_evolves rel open')
  · have mem := insert r' same open'
    rwa [show AuthTable.key (t := t) r' = k from key] at mem

/-- The version of a locked user after a statement. -/
theorem version_within (v : AuthView) (now : Time) (drawn : Nat → String) (inner : Inner s)
    (he : db.exec i s = some (answer, db')) {w' : User}
    (held' : (db'.cell ⟨.users, userId⟩).held i = some w') :
    (∃ w : User, (db.cell ⟨.users, userId⟩).visible i = some w ∧
      w'.securityVersion = w.securityVersion) ∨
    (∃ (q : UserQuery) (change : UserChange) (w : User),
      s = .update .users userId q change ∧ (db.cell ⟨.users, userId⟩).visible i = some w ∧
      AuthTable.newVersion (t := .users) change = some w'.securityVersion ∧
      (v.answered db s answer now drawn).bumped = true) ∨
    db.cell ⟨.users, userId⟩ = {} := by
  rcases exec_within he inner.1 inner.2 ⟨.users, userId⟩ with same | ⟨r, seen, -, same⟩ |
    ⟨q, change, r, rfl, seen, -, -, same⟩ | ⟨r, -, -, empty, -⟩
  · rw [same] at held'
    exact .inl ⟨w', Cell.visible_of_held held', rfl⟩
  · rw [same, Cell.held_write] at held'
    cases held'
    exact .inl ⟨w', seen, rfl⟩
  · rcases Db.writeWhen_cases he with ⟨rfl, rfl, -⟩ | ⟨_, -, -, -, rfl, -⟩
    · exact .inl ⟨w', Cell.visible_of_held held', rfl⟩
    · rw [same, Cell.held_write] at held'
      cases held'
      have written : ∀ version, AuthTable.newVersion (t := .users) change = some version →
          version = (UserChange.apply r change).securityVersion := by
        intro version new
        cases change with
        | credentials hash n =>
          cases new
          rfl
        | _ => cases new
      cases new : AuthTable.newVersion (t := .users) change with
      | none => exact .inl ⟨r, seen, securityVersion_apply r new⟩
      | some version =>
        refine .inr (.inl ⟨q, change, r, rfl, seen, new.trans (congrArg some (written _ new)), ?_⟩)
        simp [AuthView.observe, AuthView.note, AuthView.updated, new]
  · exact .inr (.inr empty)

theorem bumped_within (inner : Inner s) (h : v.bumped = true) :
    (v.answered db s answer now drawn).bumped = true := by
  cases s with
  | select t q => cases t <;> exact h
  | lock t k q => exact h
  | update t k q change =>
    simp only [AuthView.observe, AuthView.note]
    split_ifs
    · exact Bool.or_eq_true_iff.2 (.inl h)
    · exact h
  | insert t row =>
    simp only [AuthView.observe, AuthView.note]
    split_ifs
    · cases t <;> exact h
    · exact h
  | commit => exact absurd rfl inner.1
  | rollback => exact absurd rfl inner.2

theorem issued_inserted {t' : AuthTable} {row : t'.Row} (other : t ≠ t') :
    (v.inserted row).issued t = v.issued t := by
  cases t' <;> cases t <;> first | rfl | exact absurd rfl other

theorem issued_within (v : AuthView) (db : Db authSchema) (answer : s.Answer) (now : Time)
    (drawn : Nat → String) (inner : Inner s) :
    (v.answered db s answer now drawn).issued t = v.issued t ∨ ∃ row, s = .insert t row := by
  cases s with
  | select t' q => cases t' <;> cases t <;> exact .inl rfl
  | lock t' k q => cases t <;> exact .inl rfl
  | update t' k q change =>
    left
    simp only [AuthView.observe, AuthView.note]
    split_ifs <;> cases t <;> rfl
  | insert t' row =>
    by_cases same : t = t'
    · subst same
      exact .inr ⟨row, rfl⟩
    · left
      simp only [AuthView.observe, AuthView.note]
      split_ifs
      · exact (show _ = (v.inserted row).issued t by cases t <;> rfl).trans (issued_inserted same)
      · cases t <;> rfl
  | commit => exact absurd rfl inner.1
  | rollback => exact absurd rfl inner.2

/-- A row that is inserted open is the issued one. -/
theorem issued_insert {row : t.Row} (open_ : AuthTable.openFor row = some userId) :
    (v.answered db (.insert t row) true now drawn).issued t = some row := by
  cases t with
  | sessions => rfl
  | resets => rfl
  | verifications => rfl
  | _ => cases open_

theorem mayInsert_issued {row : t.Row} (h : v.MayInsert row) : v.issued t = none := by
  cases t with
  | sessions => exact h.1
  | resets => exact h.1
  | verifications => exact h.1
  | _ => rfl

theorem locks_within {version : Nat} (h : v.tx.Mirrors db i) (inner : Inner s)
    (he : db.exec i s = some (answer, db')) (locks : v.Locks userId version)
    (bumped : (v.answered db s answer now drawn).bumped = false) :
    (v.answered db s answer now drawn).Locks userId version := by
  obtain ⟨-, user, held, same⟩ := locks
  rw [h] at held
  obtain ⟨user', held', -⟩ := exec_held authEvolution he inner.1 inner.2 held
  refine ⟨bumped, user', (h.observe v.protects he _).trans held', ?_⟩
  rcases version_within v now drawn inner he held' with
    ⟨w, seen, kept⟩ | ⟨q, change, w, -, -, -, changed⟩ | empty
  · rw [Cell.visible_of_held held] at seen
    cases seen
    exact kept.trans same
  · rw [bumped] at changed
    cases changed
  · rw [empty] at held
    cases held

theorem not_bumped_of_mayInsert {row : t.Row} (h : v.MayInsert row) {version : Nat}
    (based : AuthTable.basis row = some version) : v.bumped = false := by
  cases t with
  | sessions => exact h.2.1
  | resets => exact h.2.1.1
  | _ => cases based

/-- New credentials stay without open sessions and resets. -/
theorem openAmong_bumped (relies : v.Relies env s) (inner : Inner s)
    (he : db.exec i s = some (answer, db'))
    (based : ∀ row : t.Row, ∃ version, AuthTable.basis row = some version)
    (bumped : v.bumped = true) (none : OpenAmong db i t userId []) :
    OpenAmong db' i t userId [] := by
  refine openAmong_within none inner he fun row same _ => ?_
  subst same
  obtain ⟨version, basis⟩ := based row
  have unbumped := not_bumped_of_mayInsert relies basis
  rw [bumped] at unbumped
  cases unbumped

/-- A statement that writes credentials issues nothing based on the old ones. -/
theorem unbumped_within (relies : v.Relies env s) (inner : Inner s) {o : t.Row} {version : Nat}
    (issued : v.issued t = some o) (based : AuthTable.basis o = some version)
    (locks : v.Locks userId version) : (v.answered db s answer now drawn).bumped = false := by
  have unbumped := locks.1
  cases s with
  | select t' q => cases t' <;> exact unbumped
  | lock t' k q => exact unbumped
  | update t' k q change =>
    cases new : AuthTable.newVersion change with
    | none =>
      simp only [AuthView.observe, AuthView.note]
      split_ifs
      · simp [AuthView.updated, unbumped, new]
      · exact unbumped
    | some n =>
      obtain ⟨old, -, -, opening, issuing, -⟩ := relies.1 n new
      cases t with
      | sessions => cases opening.symm.trans issued
      | resets => cases issuing.symm.trans issued
      | _ => cases based
  | insert t' row =>
    simp only [AuthView.observe, AuthView.note]
    split_ifs
    · cases t' <;> exact unbumped
    · exact unbumped
  | commit => exact absurd rfl inner.1
  | rollback => exact absurd rfl inner.2

/-- What the insertion of a row relies on is true of the row that it issues. -/
theorem Knows.may_insert (h : Knows env db i v) {o : t.Row} (may : v.MayInsert o)
    (open_ : AuthTable.openFor o = some userId) : v.Guards t userId ∧
      (∀ version, AuthTable.basis o = some version → v.Locks userId version) ∧
      (t ≠ .sessions → OpenAmong db i t userId []) := by
  have owner : ∀ {a : Prop} [Decidable a] {x : String}, (if a then some x else none) = some userId →
      x = userId := fun h => Option.some.inj (Option.ite_none_right_eq_some.1 h).2
  cases t with
  | sessions =>
    obtain ⟨-, locks⟩ := may
    obtain rfl := owner open_
    exact ⟨locks.guards nofun, fun version e => by cases e; exact locks,
      fun other => absurd rfl other⟩
  | resets =>
    obtain ⟨-, locks, listed⟩ := may
    obtain rfl := owner open_
    exact ⟨locks.guards nofun, fun version e => by cases e; exact locks,
      fun _ => openAmong_of_listed (h.lists _) listed openOf_resets⟩
  | verifications =>
    obtain ⟨-, listed⟩ := may
    obtain rfl := owner open_
    exact ⟨h.guarded .verifications _ [] listed, nofun,
      fun _ => openAmong_of_listed (h.lists _) listed openOf_verifications⟩
  | _ => cases open_

theorem consumable_invitation {r : Invitation} {tokenHash : String} {now : Time}
    (h : InvitationQuery.holds r (.consumable tokenHash now) = true) :
    r.tokenHash = tokenHash ∧ r.Pending := by
  have all : r.tokenHash = tokenHash ∧ r.Pending ∧ now < r.expiresAt := of_decide_eq_true h
  exact ⟨all.1, all.2.1⟩

/-- A token is used up that the call presents and that was not used before. -/
theorem Knows.consumes (h : Knows env db i v) (derived : ∀ a, (db.cell a).Derived authEvolution)
    {k : String} {q : t.Query} {change : t.Change} {r : t.Row} (presents : v.Presents env k q)
    (consumable : AuthTable.consumable q change = true)
    (seen : (db.cell ⟨t, k⟩).visible i = some r) (matching : AuthTable.holds q r = true) :
    Spent env v.call (AuthTable.apply change r) ∧ AuthTable.used r = false ∧
      (t = .verifications → (db.cell ⟨t, k⟩).committed ≠ none) := by
  cases t with
  | resets =>
    cases q with
    | consumable tokenHash now =>
      obtain ⟨token, unused, -⟩ := of_decide_eq_true matching
      refine ⟨⟨rfl, tokenHash, congrArg some token, presents⟩, ?_, nofun⟩
      exact congrArg Option.isSome unused
    | _ => cases consumable
  | verifications =>
    cases q with
    | consumable now =>
      obtain ⟨unused, -⟩ := of_decide_eq_true matching
      obtain ⟨r₀, checked, rfl, presents⟩ := presents
      obtain ⟨r', committed, rel⟩ := h.checked r₀ checked
      have later := (derived _).visible committed seen
      have token := (AuthTable.tokenHash_of_evolves (t := .verifications) later).trans
        (AuthTable.tokenHash_of_evolves rel)
      refine ⟨⟨rfl, r₀.tokenHash, token, presents⟩, congrArg Option.isSome unused, fun _ => ?_⟩
      rw [committed]
      exact Option.some_ne_none r'
    | _ => cases consumable
  | invitations =>
    cases q with
    | consumable tokenHash now =>
      cases change with
      | accept now' =>
        obtain ⟨token, pending⟩ := consumable_invitation matching
        refine ⟨⟨rfl, tokenHash, congrArg some token, presents⟩, ?_, nofun⟩
        exact congrArg Option.isSome pending.1
      | revoke => cases consumable
    | _ => cases consumable
  | _ => cases consumable

theorem versionOf_eq {user : User} (h : (db.cell ⟨.users, userId⟩).committed = some user) :
    versionOf db userId = user.securityVersion := by
  simp only [versionOf, h]

/-- An open session that the transaction sees is no older than its user as committed. -/
theorem Knows.versionOf_le (h : Knows env db i v) (current : Current db)
    (derived : ∀ a, (db.cell a).Derived authEvolution) {k : String} {r : SessionRow}
    (seen : (db.cell ⟨.sessions, k⟩).visible i = some r) (live : r.revokedAt = none) :
    versionOf db r.userId ≤ r.basis := by
  have open_ : AuthTable.openFor (t := .sessions) r = some r.userId := if_pos live
  cases committed : (db.cell ⟨.sessions, k⟩).committed with
  | some r₀ =>
    have rel := (derived _).visible committed seen
    obtain ⟨user, found, same⟩ := current .sessions k r₀ r.userId r.basis committed
      (AuthTable.openFor_of_evolves rel open_)
      (AuthTable.basis_of_evolves (t := .sessions) rel).symm
    rw [versionOf_eq found, same]
  | none =>
    have held : (db.cell ⟨.sessions, k⟩).held i = some r := by
      rwa [Cell.visible, committed, Option.or_none] at seen
    obtain ⟨o, issued, -, rel⟩ := h.inserted .sessions k r r.userId ⟨committed, held⟩ open_
    obtain ⟨-, locks, -⟩ := h.issued .sessions o r.userId issued
      (AuthTable.openFor_of_evolves rel open_)
    obtain ⟨unbumped, w, held, same⟩ :=
      locks r.basis (AuthTable.basis_of_evolves (t := .sessions) rel).symm
    rw [h.mirrors] at held
    cases found : (db.cell ⟨.users, r.userId⟩).committed with
    | none => simp [versionOf, found]
    | some c =>
      rw [versionOf_eq found]
      rcases h.version r.userId w c held found with same' | ⟨bumped, -⟩
      · omega
      · rw [unbumped] at bumped
        cases bumped

theorem WasRead.of_committed {r : RegistrationVerification} (h : WasRead db r)
    (same : ∀ a, (db'.cell a).committed = (db.cell a).committed) : WasRead db' r := by
  unfold WasRead
  rwa [same]

theorem consumed_within (inner : Inner s) :
    (v.answered db s answer now drawn).consumed = v.consumed := by
  cases s with
  | select t q => cases t <;> rfl
  | lock t k q => rfl
  | update t k q change =>
    simp only [AuthView.observe, AuthView.note]
    split_ifs <;> rfl
  | insert t row =>
    simp only [AuthView.observe, AuthView.note]
    split_ifs
    · cases t <;> rfl
    · rfl
  | commit => exact absurd rfl inner.1
  | rollback => exact absurd rfl inner.2

/-- The issued row is the one that was inserted. -/
theorem issued_insert_iff {row o : t.Row} (open_ : AuthTable.openFor o = some userId)
    (h : (v.answered db (.insert t row) true now drawn).issued t = some o) : row = o := by
  cases t with
  | sessions => exact Option.some.inj h
  | resets => exact Option.some.inj h
  | verifications => exact Option.some.inj h
  | _ => cases open_

variable (h : Knows env db i v) (relies : v.Relies env s) (inner : Inner s)
  (he : db.exec i s = some (answer, db'))

include h relies inner he

theorem Knows.version' {w' c : User} (held' : (db'.cell ⟨.users, userId⟩).held i = some w')
    (committed' : (db'.cell ⟨.users, userId⟩).committed = some c) :
    w'.securityVersion = c.securityVersion ∨ (v.answered db s answer now drawn).bumped = true ∧
      w'.securityVersion = c.securityVersion + 1 ∧
        OpenAmong db' i .sessions userId [] ∧ OpenAmong db' i .resets userId [] := by
  rw [exec_committed he inner.1] at committed'
  have before : ∀ w : User, (db.cell ⟨.users, userId⟩).visible i = some w →
      w.securityVersion = c.securityVersion ∨ v.bumped = true ∧
        w.securityVersion = c.securityVersion + 1 ∧
          OpenAmong db i .sessions userId [] ∧ OpenAmong db i .resets userId [] := by
    intro w seen
    rcases Option.or_eq_some_iff.1 seen with held | ⟨-, committed⟩
    · exact h.version userId w c held committed'
    · rw [committed'] at committed
      cases committed
      exact .inl rfl
  rcases version_within v now drawn inner he held' with
    ⟨w, seen, kept⟩ | ⟨q, change, w, rfl, seen, new, bumped⟩ | empty
  · rw [kept]
    refine (before w seen).imp_right fun ⟨bumped, same, sessions, resets⟩ => ?_
    exact ⟨bumped_within inner bumped, same,
      openAmong_bumped relies inner he (fun row => ⟨_, rfl⟩) bumped sessions,
      openAmong_bumped relies inner he (fun row => ⟨_, rfl⟩) bumped resets⟩
  · obtain ⟨old, next, ⟨unbumped, user, held, same⟩, -, -, sessions, resets⟩ := relies.1 _ new
    rw [h.mirrors] at held
    rw [Cell.visible_of_held held] at seen
    cases seen
    rcases before w (Cell.visible_of_held held) with kept | ⟨already, -⟩
    · refine .inr ⟨bumped, by omega, ?_, ?_⟩
      · exact openAmong_within (openAmong_of_listed (h.lists _) sessions openOf_sessions) inner he
          nofun
      · exact openAmong_within (openAmong_of_listed (h.lists _) resets openOf_resets) inner he nofun
    · rw [unbumped] at already
      cases already
  · rw [empty] at committed'
    cases committed'

theorem Knows.inserted' {k : String} {r : t.Row} (new' : (db'.cell ⟨t, k⟩).New i r)
    (open' : AuthTable.openFor r = some userId) :
    ∃ o, (v.answered db s answer now drawn).issued t = some o ∧ AuthTable.key o = k ∧
      AuthTable.Evolves o r := by
  rcases exec_new authEvolution he inner.1 inner.2 new' with ⟨r₀, new, rel⟩ | ⟨same, key⟩
  · have open_ := AuthTable.openFor_of_evolves rel open'
    obtain ⟨o, issued, key, before⟩ := h.inserted t k r₀ userId new open_
    refine ⟨o, ?_, key, authEvolution.trans before rel⟩
    rcases issued_within (t := t) v db answer now drawn inner with same | ⟨row, rfl⟩
    · rw [same, issued]
    · rw [mayInsert_issued relies] at issued
      cases issued
  · subst same
    rcases Db.insert_cases he with ⟨rfl, rfl⟩ | ⟨rfl, rfl, -, -⟩
    · obtain ⟨o, issued, -⟩ := h.inserted t k r userId new' open'
      rw [mayInsert_issued relies] at issued
      cases issued
    · exact ⟨r, issued_insert open', key, authEvolution.refl r⟩

theorem Knows.issued' {o : t.Row} (issued' : (v.answered db s answer now drawn).issued t = some o)
    (open_ : AuthTable.openFor o = some userId) :
    (v.answered db s answer now drawn).Guards t userId ∧
      (∀ version, AuthTable.basis o = some version →
        (v.answered db s answer now drawn).Locks userId version) ∧
      (t ≠ .sessions → OpenAmong db' i t userId [AuthTable.key o]) := by
  rcases issued_within (t := t) v db answer now drawn inner with same | ⟨row, rfl⟩
  · rw [same] at issued'
    obtain ⟨guards, locks, among⟩ := h.issued t o userId issued' open_
    refine ⟨guards_within h.mirrors inner he guards, fun version based => ?_, fun other => ?_⟩
    · exact locks_within h.mirrors inner he (locks version based)
        (unbumped_within relies inner issued' based (locks version based))
    · refine openAmong_within (among other) inner he fun row same _ => ?_
      subst same
      rw [mayInsert_issued relies] at issued'
      cases issued'
  · rcases Db.insert_cases he with ⟨rfl, rfl⟩ | ⟨rfl, rfl, -, -⟩
    · have same : (v.answered db' (.insert t row) false now drawn).issued t = v.issued t := by
        cases t <;> rfl
      rw [same, mayInsert_issued relies] at issued'
      cases issued'
    · obtain rfl := issued_insert_iff open_ issued'
      obtain ⟨guards, locks, among⟩ := h.may_insert relies open_
      refine ⟨guards_within h.mirrors inner he guards, fun version based => ?_, fun other => ?_⟩
      · refine locks_within h.mirrors inner he (locks version based) ?_
        have unbumped := (locks version based).1
        cases t <;> exact unbumped
      · have some : OpenAmong db i t userId [AuthTable.key row] := fun k r seen open_ =>
          absurd (among other k r seen open_) List.not_mem_nil
        refine openAmong_within some inner he fun r same _ => ?_
        cases same
        exact List.mem_singleton.2 rfl

theorem Knows.uses' (derived : ∀ a, (db.cell a).Derived authEvolution) {a : Addr authSchema}
    (using' : (v.answered db s answer now drawn).consuming = some a) :
    Uses env db' i (v.answered db s answer now drawn) a := by
  have call : (v.answered db s answer now drawn).call = v.call :=
    (AuthView.extends_observe s _).call
  by_cases old : v.consuming = some a
  · obtain ⟨⟨r, held, spent⟩, unused, verification⟩ := h.uses a old
    obtain ⟨r', held', rel⟩ := exec_held authEvolution he inner.1 inner.2 held
    refine ⟨⟨r', held', ?_⟩, ?_, ?_⟩
    · rw [call]
      exact spent.evolves rel
    · rwa [exec_committed he inner.1]
    · rwa [exec_committed he inner.1]
  · cases s with
    | select t q => cases t <;> exact absurd using' old
    | lock t k q => exact absurd using' old
    | update t k q change =>
      rcases Db.writeWhen_cases he with ⟨rfl, rfl, -⟩ | ⟨r, seen, matching, -, rfl, rfl⟩
      · exact absurd using' old
      · by_cases consumable : AuthTable.consumable q change = true
        · obtain rfl : ⟨t, k⟩ = a := by
            simpa [AuthView.observe, AuthView.note, AuthView.updated, consumable] using using'
          obtain ⟨-, -, presents⟩ := relies.2 consumable
          obtain ⟨spent, unused, verification⟩ :=
            h.consumes derived presents consumable seen matching
          have key : AuthTable.key (AuthTable.apply change r) = k :=
            (authSchema.key_apply (t := t) change r).trans (Db.key_of_visible seen)
          refine ⟨⟨AuthTable.apply change r, ?_, ?_⟩, fun r₀ committed => ?_, fun e => ?_⟩
          · have held := Db.held_write db i t (AuthTable.apply change r)
            rwa [show authSchema.key (t := t) (AuthTable.apply change r) = k from key] at held
          · rw [call]
            exact spent
          · rw [Db.committed_write] at committed
            by_contra used
            have later := AuthTable.used_of_evolves ((derived _).visible committed seen)
              (Bool.of_not_eq_false used)
            rw [unused] at later
            cases later
          · rw [Db.committed_write]
            exact verification e
        · refine absurd ?_ old
          simpa [AuthView.observe, AuthView.note, AuthView.updated, consumable] using using'
    | insert t row =>
      refine absurd ?_ old
      rw [← using']
      exact (consuming_insert row _).symm
    | commit => exact absurd rfl inner.1
    | rollback => exact absurd rfl inner.2

theorem Knows.unused' {r : RegistrationVerification}
    (unused' : (v.answered db s answer now drawn).unused = some r) : WasRead db' r := by
  have same := exec_committed he inner.1
  by_cases old : v.unused = some r
  · exact (h.unused r old).of_committed same
  · cases s with
    | select t q =>
      cases he
      cases t with
      | verifications =>
        obtain ⟨first, free⟩ := Option.filter_eq_some_iff.1 unused'
        have seen : (db.cell ⟨.verifications, r.id⟩).visible i = some r :=
          (Db.mem_rows.1 (List.mem_of_mem_head? first)).1
        rw [Bool.and_eq_true, Option.isNone_iff_eq_none, Option.isNone_iff_eq_none,
          h.mirrors] at free
        rw [Cell.visible_of_not_held free.2] at seen
        exact ⟨r, seen, authEvolution.refl (t := AuthTable.verifications) r⟩
      | _ => exact absurd unused' old
    | lock t k q => exact absurd unused' old
    | update t k q change =>
      refine absurd ?_ old
      rw [← unused']
      simp only [AuthView.observe, AuthView.note]
      split_ifs <;> rfl
    | insert t row =>
      refine absurd ?_ old
      rw [← unused']
      simp only [AuthView.observe, AuthView.note]
      split_ifs
      · cases t <;> rfl
      · rfl
    | commit => exact absurd rfl inner.1
    | rollback => exact absurd rfl inner.2

theorem Knows.checked' {r : RegistrationVerification}
    (checked' : (v.answered db s answer now drawn).checked = some r) : WasRead db' r := by
  have same := exec_committed he inner.1
  by_cases old : v.checked = some r
  · exact (h.checked r old).of_committed same
  · cases s with
    | select t q =>
      cases t with
      | users => exact (h.unused r (Option.filter_eq_some_iff.1 checked').1).of_committed same
      | _ => exact absurd checked' old
    | lock t k q => exact absurd checked' old
    | update t k q change => exact absurd ((checked_update (t := t) _).symm.trans checked') old
    | insert t row =>
      refine absurd ?_ old
      rw [← checked']
      simp only [AuthView.observe, AuthView.note]
      split_ifs
      · cases t <;> rfl
      · rfl
    | commit => exact absurd rfl inner.1
    | rollback => exact absurd rfl inner.2

theorem Knows.reads' (current : Current db) (derived : ∀ a, (db.cell a).Derived authEvolution)
    {l : Flow.Loaded} (mem : l ∈ (v.answered db s answer now drawn).sessions)
    (live : l.row.revokedAt = none) : l.asOf ≤ l.row.basis := by
  by_cases old : l ∈ v.sessions
  · exact h.reads l old live
  · cases s with
    | select t q =>
      cases he
      cases t with
      | sessions =>
        obtain ⟨row, found, rfl⟩ := List.mem_map.1 ((List.mem_append.1 mem).resolve_right old)
        exact h.versionOf_le current derived (Db.mem_rows.1 found).1 live
      | _ => exact absurd mem old
    | lock t k q => exact absurd mem old
    | update t k q change =>
      refine absurd ?_ old
      simp only [AuthView.observe, AuthView.note] at mem
      split_ifs at mem <;> exact mem
    | insert t row =>
      refine absurd ?_ old
      simp only [AuthView.observe, AuthView.note] at mem
      split_ifs at mem
      · cases t <;> exact mem
      · exact mem
    | commit => exact absurd rfl inner.1
    | rollback => exact absurd rfl inner.2

/-- What is known of a transaction stays true with its next statement. -/
theorem Knows.within (current : Current db) (derived : ∀ a, (db.cell a).Derived authEvolution) :
    Knows env db' i (v.answered db s answer now drawn) where
  sane := ⟨h.sane, h.mirrors.possible he⟩
  mirrors := h.mirrors.observe _ he
  lists t := (h.lists t).observe _ he
  guarded t q keys listed := guarded_within h inner he listed
  version userId w c held committed := h.version' relies inner he held committed
  inserted t k r userId new open_ := h.inserted' relies inner he new open_
  issued t o userId issued open_ := h.issued' relies inner he issued open_
  uses a using_ := h.uses' relies inner he derived using_
  used a used := by
    rw [consumed_within inner] at used
    obtain ⟨r, committed, spent⟩ := h.used a used
    refine ⟨r, (exec_committed he inner.1 a).trans committed, ?_⟩
    rwa [(AuthView.extends_observe s _).call]
  unused r unused := h.unused' relies inner he unused
  checked r checked := h.checked' relies inner he checked
  reads l mem := h.reads' relies inner he current derived mem

end Within

/-! ### The end of a transaction -/

theorem WasRead.evolves {r : RegistrationVerification} (h : WasRead db r)
    (evolves : ∀ (a : Addr authSchema) r, (db.cell a).committed = some r →
      ∃ r', (db'.cell a).committed = some r' ∧ AuthTable.Evolves (t := a.1) r r') :
    WasRead db' r := by
  obtain ⟨r₁, committed, rel⟩ := h
  obtain ⟨r₂, committed', rel'⟩ := evolves _ r₁ committed
  exact ⟨r₂, committed', authEvolution.trans (t := AuthTable.verifications) rel rel'⟩

/-- A transaction that is over knows what it has read and what it has used up. -/
theorem Knows.ended (h : Knows env db i v) (clear : ∀ a, (db'.cell a).held i = none)
    (evolves : ∀ (a : Addr authSchema) r, (db.cell a).committed = some r →
      ∃ r', (db'.cell a).committed = some r' ∧ AuthTable.Evolves (t := a.1) r r') :
    Knows env db' i v.ended where
  sane := h.sane
  mirrors := Tx.mirrors_reset clear
  lists _ := nofun
  guarded _ := nofun
  version _ w _ held := nomatch (clear _).symm.trans held
  inserted _ _ r _ new := nomatch (clear _).symm.trans new.2
  issued t o _ issued := by cases t <;> cases issued
  uses := nofun
  used a used := by
    obtain ⟨r, committed, spent⟩ := h.used a used
    obtain ⟨r', committed', rel⟩ := evolves a r committed
    exact ⟨r', committed', spent.evolves rel⟩
  unused r unused := (h.unused r unused).evolves evolves
  checked r checked := (h.checked r checked).evolves evolves
  reads := h.reads

/-- A commit uses up the token. -/
theorem Knows.commit (h : Knows env db i v) (derived : ∀ a, (db.cell a).Derived authEvolution) :
    Knows env (db.commit i) i v.committed := by
  have ended : Knows env (db.commit i) i v.ended :=
    h.ended (fun a => Cell.held_commit) fun a r committed =>
      CellStep.commit.evolves (derived a) committed
  refine { ended with uses := nofun, used := fun a used => ?_ }
  rcases Option.or_eq_some_iff.1 used with consuming | ⟨-, consumed⟩
  · obtain ⟨⟨r, held, spent⟩, -⟩ := h.uses a consuming
    exact ⟨r, Cell.committed_commit.trans (Cell.visible_of_held held), spent⟩
  · exact ended.used a consumed

/-! ### Statements of another transaction -/

section Other

variable (hj : Knows env db j w) (hi : Knows env db i v) (ne : j ≠ i)
  (steps : ∀ a, CellStep i (db.cell a) (db'.cell a))
  (derived : ∀ a, (db.cell a).Derived authEvolution)

include hj hi ne

/-- No other transaction has inserted a row for a guarded user. -/
theorem Knows.unrelated (guards : w.Guards t userId) {k : String} {r : t.Row}
    (new : (db.cell ⟨t, k⟩).New i r) : AuthTable.openFor r ≠ some userId := by
  intro open_
  obtain ⟨o, issued, -, rel⟩ := hi.inserted t k r userId new open_
  obtain ⟨guards', -⟩ := hi.issued t o userId issued (AuthTable.openFor_of_evolves rel open_)
  exact ne (hj.exclusive hi guards guards')

include steps derived

theorem Knows.openAmong_other (guards : w.Guards t userId) {keys : List String}
    (h : OpenAmong db j t userId keys) : OpenAmong db' j t userId keys := by
  intro k r seen open_
  rcases (steps ⟨t, k⟩).visible_of_ne (derived _) ne seen with ⟨r₀, old, rel⟩ | new
  · exact h k r₀ old (AuthTable.openFor_of_evolves rel open_)
  · exact absurd open_ (hj.unrelated hi ne guards new)

/-- What is known of a transaction stays true with the statements of another. -/
theorem Knows.other : Knows env db' j w where
  sane := hj.sane
  mirrors := hj.mirrors.other steps ne
  lists t := by
    refine (hj.lists t).other steps derived ne ?_ ?_
    · intro q keys listed r r' rel matching
      obtain ⟨userId, -, spec⟩ := AuthView.protects_spec (hj.guarded t q keys listed)
      exact (spec r).2 (AuthTable.openFor_of_evolves rel ((spec r').1 matching))
    · intro q keys listed k r committed held
      obtain ⟨userId, guards, spec⟩ := AuthView.protects_spec (hj.guarded t q keys listed)
      refine Bool.eq_false_iff.2 fun matching => ?_
      exact hj.unrelated hi ne guards ⟨committed, held⟩ ((spec r).1 matching)
  guarded := hj.guarded
  version userId w' c held committed := by
    rw [(steps _).held_of_ne ne] at held
    rw [(steps _).committed_of_held ne held] at committed
    have guards : ∀ t, t ≠ AuthTable.verifications → w.Guards t userId := by
      have locked := Option.isSome_iff_exists.2 ⟨w', (hj.mirrors _).trans held⟩
      intro t notVerifications
      cases t with
      | verifications => exact absurd rfl notVerifications
      | _ => exact locked
    refine (hj.version userId w' c held committed).imp_right
      fun ⟨bumped, same, sessions, resets⟩ => ?_
    exact ⟨bumped, same, hj.openAmong_other hi ne steps derived (guards .sessions nofun) sessions,
      hj.openAmong_other hi ne steps derived (guards .resets nofun) resets⟩
  inserted t k r userId new open_ := by
    obtain ⟨committed', held⟩ := new
    rw [(steps _).held_of_ne ne] at held
    refine hj.inserted t k r userId ⟨?_, held⟩ open_
    rwa [(steps _).committed_of_held ne held] at committed'
  issued t o userId issued open_ := by
    obtain ⟨guards, locks, among⟩ := hj.issued t o userId issued open_
    exact ⟨guards, locks, fun notSessions =>
      hj.openAmong_other hi ne steps derived guards (among notSessions)⟩
  uses a consuming := by
    obtain ⟨⟨r, held, spent⟩, unused, verification⟩ := hj.uses a consuming
    have same := (steps a).committed_of_held ne held
    refine ⟨⟨r, ((steps a).held_of_ne ne).trans held, spent⟩, ?_, ?_⟩
    · rwa [same]
    · rwa [same]
  used a used := by
    obtain ⟨r, committed, spent⟩ := hj.used a used
    obtain ⟨r', committed', rel⟩ := (steps a).evolves (derived a) committed
    exact ⟨r', committed', spent.evolves rel⟩
  unused r unused := (hj.unused r unused).evolves fun a r => (steps a).evolves (derived a)
  checked r checked := (hj.checked r checked).evolves fun a r => (steps a).evolves (derived a)
  reads := hj.reads

end Other

end Knowledge

end DataMover
