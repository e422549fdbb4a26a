import DataMover.Auth.Knowledge

/-!
# Sessions and tokens across calls

`AuthInv` is what all calls know, together with what it makes true of the committed rows: open
sessions and resets are on the version of their user, no user has two open tokens of one kind, and a
token is used up by one call.  Only a commit changes the committed rows (`AuthInv.commit`); the
other statements keep what is committed (`AuthInv.uncommitted`).
-/

namespace DataMover

open ReadCommitted Program Transition

/-! ## Answers -/

section Served

variable {o : AuthOracle} {i : Nat} {db db' : Db authSchema} {s : AuthStmt}
  {r : Except AuthExn (AuthReply s)}

/-- An answer is an exception after a rollback or a commit, or the answer of the database. -/
theorem authServe_cases (h : authServe o i db s = some (r, db')) :
    (∃ e, r = .error e ∧ (db' = db.rollback i ∨ s = .commit ∧ db' = db.commit i)) ∨
    ∃ answer, db.exec i s = some (answer, db') ∧
      r = .ok { value := answer, now := o.now, fresh := o.fresh, versions := versionOf db } := by
  unfold authServe at h
  split_ifs at h with raises
  · cases h
    refine .inl ⟨_, rfl, ?_⟩
    unfold authRaised
    split
    · split_ifs
      · exact .inr ⟨rfl, rfl⟩
      · exact .inl rfl
    · exact .inl rfl
  · obtain ⟨⟨answer, db''⟩, he, same⟩ := Option.map_eq_some_iff.1 h
    cases same
    exact .inr ⟨answer, he, rfl⟩

theorem authServe_cell (h : authServe o i db s = some (r, db')) (a : Addr authSchema) :
    CellStep i (db.cell a) (db'.cell a) := by
  rcases authServe_cases h with ⟨e, -, rfl | ⟨-, rfl⟩⟩ | ⟨answer, he, -⟩
  · exact .rollback
  · exact .commit
  · exact exec_cell he a

/-- A statement rolls back, commits, maybe unknown to its call, or leaves what is committed alone
within its transaction. -/
theorem authServe_kinds (h : authServe o i db s = some (r, db')) (v : AuthView) :
    (v.observe s r = v.ended ∧ (db' = db.rollback i ∨ s = .commit ∧ db' = db.commit i)) ∨
    (s = .rollback ∧ v.observe s r = { v.ended with Sane := v.Sane ∧ True } ∧
      db' = db.rollback i) ∨
    (s = .commit ∧ v.observe s r = { v.committed with Sane := v.Sane ∧ True } ∧
      db' = db.commit i) ∨
    ∃ answer, Inner s ∧ db.exec i s = some (answer, db') ∧
      v.observe s r = v.answered db s answer o.now o.fresh := by
  rcases authServe_cases h with ⟨e, rfl, over_⟩ | ⟨answer, he, rfl⟩
  · exact .inl ⟨rfl, over_⟩
  · by_cases commit : s = .commit
    · subst commit
      cases he
      exact .inr (.inr (.inl ⟨rfl, rfl, rfl⟩))
    · by_cases rollback : s = .rollback
      · subst rollback
        cases he
        exact .inr (.inl ⟨rfl, rfl, rfl⟩)
      · exact .inr (.inr (.inr ⟨answer, ⟨commit, rollback⟩, he, rfl⟩))

end Served

/-! ## Invariant -/

/-- The call has registered the user: it used up a verification of the user. -/
def AuthView.Registers (v : AuthView) (db : Db authSchema) (userId : String) : Prop :=
  ∃ k, v.consumed = some ⟨.verifications, k⟩ ∧ ∃ r : RegistrationVerification,
    (db.cell ⟨.verifications, k⟩).committed = some r ∧ r.userId = userId

/-- The user is verified, as committed. -/
def IsVerified (db : Db authSchema) (userId : String) : Prop :=
  ∃ user : User, (db.cell ⟨.users, userId⟩).committed = some user ∧ user.emailVerifiedAt ≠ none

/-- The token is used up, as committed. -/
def IsUsed (db : Db authSchema) (t : AuthTable) (k : String) : Prop :=
  ∃ r : t.Row, (db.cell ⟨t, k⟩).committed = some r ∧ AuthTable.used r = true

/-- No user has two open resets or two open verifications. -/
def Single (db : Db authSchema) : Prop :=
  ∀ (t : AuthTable) k k' (r r' : t.Row) userId, t ≠ .sessions →
    (db.cell ⟨t, k⟩).committed = some r → (db.cell ⟨t, k'⟩).committed = some r' →
    AuthTable.openFor r = some userId → AuthTable.openFor r' = some userId → k = k'

/-- What holds of the database and of the views of all calls. -/
structure AuthInv (env : AuthEnv) (db : Db authSchema) (views : List AuthView) : Prop where
  knows : ∀ i v, views[i]? = some v → Knows env db i v
  absent : ∀ i, views[i]? = none → ∀ a, (db.cell a).held i = none
  derived : ∀ a, (db.cell a).Derived authEvolution
  current : Current db
  single : Single db
  distinct : ∀ t, db.Distinct (AuthTable.tokenHash (t := t))
  once : ∀ (i j : Nat) (v w : AuthView) a, views[i]? = some v → views[j]? = some w →
    v.consumed = some a → w.consumed = some a → i = j
  verified : ∀ (i : Nat) (v : AuthView) userId, views[i]? = some v → v.Registers db userId →
    IsVerified db userId
  checked : ∀ (i j : Nat) (v w : AuthView) (r : RegistrationVerification), views[i]? = some v →
    views[j]? = some w → v.checked = some r → w.Registers db r.userId →
      IsUsed db .verifications r.id
  registers : ∀ (i j : Nat) (v w : AuthView) userId, views[i]? = some v → views[j]? = some w →
    v.Registers db userId → w.Registers db userId → i = j

section Invariant

variable {env : AuthEnv} {db db' : Db authSchema} {views : List AuthView} {i j : Nat}
  {v w v' : AuthView} {userId : String}

/-- What is committed only evolves. -/
def DbEvolves (db db' : Db authSchema) : Prop :=
  ∀ (a : Addr authSchema) r, (db.cell a).committed = some r →
    ∃ r', (db'.cell a).committed = some r' ∧ AuthTable.Evolves (t := a.1) r r'

theorem DbEvolves.refl (db : Db authSchema) : DbEvolves db db :=
  fun _ r committed => ⟨r, committed, authEvolution.refl r⟩

theorem DbEvolves.trans {db₁ db₂ db₃ : Db authSchema} (first : DbEvolves db₁ db₂)
    (second : DbEvolves db₂ db₃) : DbEvolves db₁ db₃ := by
  intro a r committed
  obtain ⟨r₂, committed₂, rel₂⟩ := first a r committed
  obtain ⟨r₃, committed₃, rel₃⟩ := second a r₂ committed₂
  exact ⟨r₃, committed₃, authEvolution.trans rel₂ rel₃⟩

theorem IsVerified.evolves (h : IsVerified db userId) (evolves : DbEvolves db db') :
    IsVerified db' userId := by
  obtain ⟨user, committed, verified⟩ := h
  obtain ⟨user', committed', -, -, kept⟩ := evolves ⟨.users, userId⟩ user committed
  exact ⟨user', committed', kept verified⟩

theorem IsUsed.evolves {t : AuthTable} {k : String} (h : IsUsed db t k)
    (evolves : DbEvolves db db') : IsUsed db' t k := by
  obtain ⟨r, committed, used⟩ := h
  obtain ⟨r', committed', rel⟩ := evolves ⟨t, k⟩ r committed
  exact ⟨r', committed', AuthTable.used_of_evolves rel used⟩

/-- The verification that a call used up was already there. -/
theorem AuthView.Registers.before (known : Knows env db i v) (evolves : DbEvolves db db')
    (same : v'.consumed = v.consumed) (h : v'.Registers db' userId) : v.Registers db userId := by
  obtain ⟨k, consumed, r', committed', owner⟩ := h
  rw [same] at consumed
  obtain ⟨r, committed, -⟩ := known.used _ consumed
  obtain ⟨r'', committed'', rel⟩ := evolves ⟨.verifications, k⟩ r committed
  rw [committed'] at committed''
  cases committed''
  exact ⟨k, consumed, r, committed, rel.2.1.symm.trans owner⟩

/-! ### Commits -/

theorem AuthInv.evolves_commit (inv : AuthInv env db views) : DbEvolves db (db.commit i) :=
  fun a _ => CellStep.commit.evolves (inv.derived a)

section Commit

variable (inv : AuthInv env db views) (hi : views[i]? = some v)

include inv hi

theorem AuthInv.current_commit : Current (db.commit i) := by
  intro t k r userId version seen open_ based
  rw [Db.cell_commit, Cell.committed_commit] at seen
  simp only [Db.cell_commit, Cell.committed_commit]
  have known := inv.knows i v hi
  cases committed : (db.cell ⟨t, k⟩).committed with
  | none =>
    have held : (db.cell ⟨t, k⟩).held i = some r := by
      rwa [Cell.visible, committed, Option.or_none] at seen
    obtain ⟨o, issued, -, rel⟩ := known.inserted t k r userId ⟨committed, held⟩ open_
    obtain ⟨-, locks, -⟩ := known.issued t o userId issued (AuthTable.openFor_of_evolves rel open_)
    obtain ⟨-, user, locked, same⟩ :=
      locks version ((AuthTable.basis_of_evolves rel).symm.trans based)
    rw [known.mirrors] at locked
    exact ⟨user, Cell.visible_of_held locked, same⟩
  | some r₀ =>
    have rel := (inv.derived _).visible committed seen
    obtain ⟨user, found, same⟩ := inv.current t k r₀ userId version committed
      (AuthTable.openFor_of_evolves rel open_) ((AuthTable.basis_of_evolves rel).symm.trans based)
    cases held : (db.cell ⟨.users, userId⟩).held i with
    | none => exact ⟨user, (Cell.visible_of_not_held held).trans found, same⟩
    | some w =>
      refine ⟨w, Cell.visible_of_held held, ?_⟩
      rcases known.version userId w user held found with kept | ⟨-, -, sessions, resets⟩
      · exact kept.trans same
      · cases t with
        | sessions => cases sessions k r seen open_
        | resets => cases resets k r seen open_
        | _ => cases based

theorem AuthInv.single_commit : Single (db.commit i) := by
  intro t k k' r r' userId other seen seen' open_ open'
  rw [Db.cell_commit, Cell.committed_commit] at seen seen'
  have known := inv.knows i v hi
  have new : ∀ {k r}, (db.cell ⟨t, k⟩).committed = none → (db.cell ⟨t, k⟩).visible i = some r →
      AuthTable.openFor r = some userId → OpenAmong db i t userId [k] := by
    intro k r none seen open_
    rw [Cell.visible, none, Option.or_none] at seen
    obtain ⟨o, issued, key, rel⟩ := known.inserted t k r userId ⟨none, seen⟩ open_
    rw [← key]
    exact (known.issued t o userId issued (AuthTable.openFor_of_evolves rel open_)).2.2 other
  cases committed : (db.cell ⟨t, k⟩).committed with
  | none => exact (List.mem_singleton.1 (new committed seen open_ k' r' seen' open')).symm
  | some r₀ =>
    cases committed' : (db.cell ⟨t, k'⟩).committed with
    | none => exact List.mem_singleton.1 (new committed' seen' open' k r seen open_)
    | some r₀' =>
      exact inv.single t k k' r₀ r₀' userId other committed committed'
        (AuthTable.openFor_of_evolves ((inv.derived _).visible committed seen) open_)
        (AuthTable.openFor_of_evolves ((inv.derived _).visible committed' seen') open')

/-- A verification that is about to be used up belongs to a user that no call has registered. -/
theorem AuthInv.unregistered {k : String} (verifies : v.Verifies)
    (consuming : v.consuming = some ⟨.verifications, k⟩) : ∃ r r' : RegistrationVerification,
      (db.cell ⟨.verifications, k⟩).committed = some r ∧ r.usedAt = none ∧
      (db.cell ⟨.verifications, k⟩).held i = some r' ∧ r'.usedAt ≠ none ∧ r'.userId = r.userId ∧
      (∃ user : User, (db.cell ⟨.users, r.userId⟩).held i = some user ∧
        user.emailVerifiedAt ≠ none) ∧
      ∀ (j : Nat) (w : AuthView), views[j]? = some w → ¬ w.Registers db r.userId := by
  have known := inv.knows i v hi
  obtain ⟨⟨r', held, spent⟩, unused, there⟩ := known.uses _ consuming
  obtain ⟨r, committed⟩ := Option.ne_none_iff_exists'.1 (there rfl)
  obtain ⟨r₀, checked, rfl, user, locked, verified⟩ := verifies _ consuming rfl
  obtain ⟨r₁, committed₁, rel₁⟩ := known.checked r₀ checked
  rw [committed] at committed₁
  cases committed₁
  have fresh : AuthTable.used (t := .verifications) r = false := unused r committed
  have owner : r.userId = r₀.userId := rel₁.2.1
  rw [known.mirrors, ← owner] at locked
  refine ⟨r, r', committed, ?_, held, ?_, ?_, ⟨user, locked, verified⟩, ?_⟩
  · exact Option.isSome_eq_false_iff.1 fresh |> Option.isNone_iff_eq_none.1
  · exact Option.isSome_iff_ne_none.1 spent.1
  · exact ((inv.derived _).visible committed (Cell.visible_of_held held)).2.1
  · intro j w hj registers
    rw [owner] at registers
    obtain ⟨r₂, committed₂, used⟩ := inv.checked i j v w r₀ hi hj checked registers
    rw [committed] at committed₂
    cases committed₂
    rw [fresh] at used
    cases used

section View

-- the call does not know of a commit whose reply was lost
variable (verifies : v.Verifies)
  (consumed : v'.consumed = v.consuming.or v.consumed ∨ v'.consumed = v.consumed)

include consumed

theorem AuthInv.once_commit {j j' : Nat} {w w' : AuthView} {a : Addr authSchema}
    (hj : (views.set i v')[j]? = some w) (hj' : (views.set i v')[j']? = some w')
    (used : w.consumed = some a) (used' : w'.consumed = some a) : j = j' := by
  have known := inv.knows i v hi
  have alone : ∀ {j : Nat} {w : AuthView}, j ≠ i → views[j]? = some w → w.consumed = some a →
      v'.consumed ≠ some a := by
    intro j w other hj before own
    have earlier : v.consumed ≠ some a := fun earlier =>
      other (inv.once j i w v a hj hi before earlier)
    rcases consumed with consumed | consumed
    · rw [consumed] at own
      rcases Option.or_eq_some_iff.1 own with consuming | ⟨-, own⟩
      · obtain ⟨r, committed, used, -⟩ := (inv.knows j w hj).used a before
        rw [(known.uses a consuming).unused r committed] at used
        cases used
      · exact earlier own
    · exact earlier (consumed.symm.trans own)
  rcases Workload.getElem?_set_cases hj with ⟨same, rfl⟩ | ⟨other, old⟩ <;>
    rcases Workload.getElem?_set_cases hj' with ⟨same', rfl⟩ | ⟨other', old'⟩
  · exact same.trans same'.symm
  · exact absurd used (alone other' old' used')
  · exact absurd used' (alone other old used)
  · exact inv.once j j' w w' a old old' used used'

include verifies

/-- A user that is registered after a commit was registered before, or the commit registers it. -/
theorem AuthInv.registers_cases {w' : AuthView} (hj : (views.set i v')[j]? = some w')
    (h : w'.Registers (db.commit i) userId) :
    (∃ w : AuthView, views[j]? = some w ∧ w.Registers db userId) ∨
    j = i ∧ ∃ k, v.consuming = some ⟨.verifications, k⟩ ∧ ∃ r : RegistrationVerification,
      (db.cell ⟨.verifications, k⟩).committed = some r ∧ r.userId = userId := by
  rcases Workload.getElem?_set_cases hj with ⟨rfl, rfl⟩ | ⟨-, hj⟩
  · have before (same : w'.consumed = v.consumed) : ∃ w : AuthView, views[j]? = some w ∧
        w.Registers db userId :=
      ⟨v, hi, h.before (inv.knows _ v hi) inv.evolves_commit same⟩
    rcases consumed with consumed | consumed
    swap
    · exact .inl (before consumed)
    cases using_ : v.consuming with
    | none =>
      rw [using_, Option.none_or] at consumed
      exact .inl (before consumed)
    | some a =>
      rw [using_, Option.some_or] at consumed
      obtain ⟨k, own, r', committed', owner⟩ := h
      rw [consumed] at own
      cases own
      obtain ⟨r, r₁, committed, -, held, -, same, -⟩ := inv.unregistered hi verifies using_
      rw [Db.cell_commit, Cell.committed_commit, Cell.visible_of_held held] at committed'
      cases committed'
      exact .inr ⟨rfl, k, rfl, r, committed, same.symm.trans owner⟩
  · exact .inl ⟨w', hj, h.before (inv.knows j w' hj) inv.evolves_commit rfl⟩

theorem AuthInv.verified_commit (hj : (views.set i v')[j]? = some w)
    (h : w.Registers (db.commit i) userId) : IsVerified (db.commit i) userId := by
  rcases inv.registers_cases hi verifies consumed hj h with
    ⟨w₀, hj₀, h₀⟩ | ⟨-, k, consuming, r, committed, rfl⟩
  · exact (inv.verified j w₀ userId hj₀ h₀).evolves inv.evolves_commit
  · obtain ⟨r₁, -, committed₁, -, -, -, -, ⟨user, held, verified⟩, -⟩ :=
      inv.unregistered hi verifies consuming
    rw [committed] at committed₁
    cases committed₁
    exact ⟨user, Cell.committed_commit.trans (Cell.visible_of_held held), verified⟩

theorem AuthInv.checked_commit {j j' : Nat} {w w' : AuthView} {r : RegistrationVerification}
    (hj : views[j]? = some w) (checked : w.checked = some r)
    (hj' : (views.set i v')[j']? = some w') (h : w'.Registers (db.commit i) r.userId) :
    IsUsed (db.commit i) .verifications r.id := by
  rcases inv.registers_cases hi verifies consumed hj' h with
    ⟨w₁, hj₁, h₁⟩ | ⟨-, k, consuming, r₁, committed₁, owner₁⟩
  · exact (inv.checked j j' w w₁ r hj hj₁ checked h₁).evolves inv.evolves_commit
  · obtain ⟨r₀, committed₀, rel⟩ := (inv.knows j w hj).checked r checked
    by_cases used : r₀.usedAt = none
    · obtain ⟨r₁', r₂, committed₁', unused₁, held, used₂, -⟩ :=
        inv.unregistered hi verifies consuming
      rw [committed₁] at committed₁'
      cases committed₁'
      obtain rfl : r.id = k := inv.single .verifications r.id k r₀ r₁ r.userId nofun committed₀
        committed₁ ((if_pos used).trans (congrArg some rel.2.1))
        ((if_pos unused₁).trans (congrArg some owner₁))
      exact ⟨r₂, Cell.committed_commit.trans (Cell.visible_of_held held),
        Option.isSome_iff_ne_none.2 used₂⟩
    · exact IsUsed.evolves (t := .verifications)
        ⟨r₀, committed₀, Option.isSome_iff_ne_none.2 used⟩ inv.evolves_commit

theorem AuthInv.registers_commit {j j' : Nat} {w w' : AuthView}
    (hj : (views.set i v')[j]? = some w) (hj' : (views.set i v')[j']? = some w')
    (h : w.Registers (db.commit i) userId) (h' : w'.Registers (db.commit i) userId) : j = j' := by
  have alone : ∀ {j : Nat} {w : AuthView} {k r}, views[j]? = some w →
      v.consuming = some ⟨.verifications, k⟩ →
      (db.cell ⟨.verifications, k⟩).committed = some r → ¬ w.Registers db r.userId := by
    intro j w k r hj consuming committed
    obtain ⟨r', -, committed', -, -, -, -, -, nobody⟩ := inv.unregistered hi verifies consuming
    rw [committed] at committed'
    cases committed'
    exact nobody j w hj
  rcases inv.registers_cases hi verifies consumed hj h with
    ⟨w₀, hj₀, h₀⟩ | ⟨same, k, consuming, r, committed, owner⟩ <;>
    rcases inv.registers_cases hi verifies consumed hj' h' with
      ⟨w₁, hj₁, h₁⟩ | ⟨same', k', consuming', r', committed', owner'⟩
  · exact inv.registers j j' w₀ w₁ userId hj₀ hj₁ h₀ h₁
  · exact absurd (owner' ▸ h₀) (alone hj₀ consuming' committed')
  · exact absurd (owner ▸ h₁) (alone hj₁ consuming committed)
  · exact same.trans same'.symm

/-- The invariant is kept by a commit. -/
theorem AuthInv.commit (own : Knows env (db.commit i) i v') (checked : v'.checked = v.checked) :
    AuthInv env (db.commit i) (views.set i v') where
  knows j w hj := by
    rcases Workload.getElem?_set_cases hj with ⟨rfl, rfl⟩ | ⟨other, hj⟩
    · exact own
    · exact (inv.knows j w hj).other (inv.knows i v hi) other (fun a => .commit) inv.derived
  absent j hj a := by
    by_cases same : j = i
    · rw [same]
      exact Cell.held_commit
    · rw [List.getElem?_set_ne (Ne.symm same)] at hj
      exact (Cell.held_commit_of_ne same).trans (inv.absent j hj a)
  derived a := CellStep.commit.derived (inv.derived a)
  current := inv.current_commit hi
  single := inv.single_commit hi
  distinct t := (inv.distinct t).exec authEvolution (fun _ _ _ => AuthTable.tokenHash_kept)
    (fun _ _ _ => AuthTable.clashes_of_tokenHash) (i := i) (s := .commit) rfl
  once j j' w w' a hj hj' := inv.once_commit hi consumed hj hj'
  verified j w userId hj h := inv.verified_commit hi verifies consumed hj h
  checked j j' w w' r hj hj' known h := by
    rcases Workload.getElem?_set_cases hj with ⟨-, rfl⟩ | ⟨-, hj⟩
    · exact inv.checked_commit hi verifies consumed hi (checked.symm.trans known) hj' h
    · exact inv.checked_commit hi verifies consumed hj known hj' h
  registers j j' w w' userId hj hj' := inv.registers_commit hi verifies consumed hj hj'

end View

end Commit

/-! ### Other statements -/

section Uncommitted

variable (inv : AuthInv env db views) (hi : views[i]? = some v)

include inv hi

/-- What is committed decides the rest of the invariant, when the views only check verifications of
users that are not registered. -/
theorem AuthInv.uncommitted (steps : ∀ a, CellStep i (db.cell a) (db'.cell a))
    (same : ∀ a, (db'.cell a).committed = (db.cell a).committed)
    (distinct : ∀ t, db'.Distinct (AuthTable.tokenHash (t := t))) (own : Knows env db' i v')
    (consumed : v'.consumed = v.consumed)
    (checked : ∀ r, v'.checked = some r → v.checked = some r ∨ ¬ IsVerified db r.userId) :
    AuthInv env db' (views.set i v') := by
  have evolves : DbEvolves db db' := fun a r committed =>
    ⟨r, (same a).trans committed, authEvolution.refl r⟩
  have before : ∀ {j : Nat} {w : AuthView}, (views.set i v')[j]? = some w →
      ∃ w₀ : AuthView, views[j]? = some w₀ ∧ w.consumed = w₀.consumed ∧
        ∀ userId, w.Registers db' userId → w₀.Registers db userId := by
    intro j w hj
    rcases Workload.getElem?_set_cases hj with ⟨rfl, rfl⟩ | ⟨-, hj⟩
    · exact ⟨v, hi, consumed, fun userId h => h.before (inv.knows _ v hi) evolves consumed⟩
    · exact ⟨w, hj, rfl, fun userId h => h.before (inv.knows j w hj) evolves rfl⟩
  exact {
    knows := fun j w hj => by
      rcases Workload.getElem?_set_cases hj with ⟨rfl, rfl⟩ | ⟨other, hj⟩
      · exact own
      · exact (inv.knows j w hj).other (inv.knows i v hi) other steps inv.derived
    absent := fun j hj a => by
      have other : j ≠ i := by
        rintro rfl
        rw [Workload.getElem?_set_self _ hi] at hj
        cases hj
      rw [List.getElem?_set_ne other.symm] at hj
      exact ((steps a).held_of_ne other).trans (inv.absent j hj a)
    derived := fun a => (steps a).derived (inv.derived a)
    current := by
      unfold Current
      simp only [same]
      exact inv.current
    single := by
      unfold Single
      simp only [same]
      exact inv.single
    distinct := distinct
    once := fun j j' w w' a hj hj' used used' => by
      obtain ⟨w₀, hj₀, kept, -⟩ := before hj
      obtain ⟨w₁, hj₁, kept', -⟩ := before hj'
      exact inv.once j j' w₀ w₁ a hj₀ hj₁ (kept.symm.trans used) (kept'.symm.trans used')
    verified := fun j w userId hj h => by
      obtain ⟨w₀, hj₀, -, kept⟩ := before hj
      exact (inv.verified j w₀ userId hj₀ (kept userId h)).evolves evolves
    checked := fun j j' w w' r hj hj' known h => by
      obtain ⟨w₁, hj₁, -, kept⟩ := before hj'
      have registers := kept r.userId h
      rcases Workload.getElem?_set_cases hj with ⟨-, rfl⟩ | ⟨-, hj⟩
      · rcases checked r known with known | unverified
        · exact (inv.checked i j' v w₁ r hi hj₁ known registers).evolves evolves
        · exact absurd (inv.verified j' w₁ r.userId hj₁ registers) unverified
      · exact (inv.checked j j' w w₁ r hj hj₁ known registers).evolves evolves
    registers := fun j j' w w' userId hj hj' h h' => by
      obtain ⟨w₀, hj₀, -, kept⟩ := before hj
      obtain ⟨w₁, hj₁, -, kept'⟩ := before hj'
      exact inv.registers j j' w₀ w₁ userId hj₀ hj₁ (kept userId h) (kept' userId h') }

/-- The invariant is kept by a rollback. -/
theorem AuthInv.rollback (own : Knows env (db.rollback i) i v')
    (consumed : v'.consumed = v.consumed) (checked : v'.checked = v.checked) :
    AuthInv env (db.rollback i) (views.set i v') :=
  inv.uncommitted hi (fun _ => .rollback) (fun _ => Cell.committed_rollback)
    (fun t => (inv.distinct t).rollback) own consumed fun _ known => .inl (checked ▸ known)

omit hi in
/-- A user that a call has read unverified is not verified. -/
theorem AuthInv.checked_answered {s : AuthStmt} {answer : s.Answer} {now : Time}
    {drawn : Nat → String} (inner : Inner s) (he : db.exec i s = some (answer, db'))
    {r : RegistrationVerification}
    (known : (v.answered db s answer now drawn).checked = some r) :
    v.checked = some r ∨ ¬ IsVerified db r.userId := by
  cases s with
  | select t q =>
    cases t with
    | users =>
      cases he
      refine .inr fun ⟨user, committed, verified⟩ => ?_
      obtain ⟨-, read⟩ := Option.filter_eq_some_iff.1 known
      obtain ⟨user', first, same⟩ := (Option.any_eq_true _ _).1 read
      obtain ⟨owner, unverified⟩ := of_decide_eq_true same
      have seen : (db.cell ⟨.users, user'.id⟩).visible i = some user' :=
        (Db.mem_rows.1 (List.mem_of_mem_head? first)).1
      rw [owner] at seen
      exact ((inv.derived _).visible committed seen).2.2 verified unverified
    | _ => exact .inl known
  | lock t k q => exact .inl known
  | update t k q change => exact .inl ((checked_update (t := t) _).symm.trans known)
  | insert t row =>
    left
    rw [← known]
    simp only [AuthView.observe, AuthView.note]
    split_ifs
    · cases t <;> rfl
    · rfl
  | commit => exact absurd rfl inner.1
  | rollback => exact absurd rfl inner.2

/-- The invariant is kept by an answer. -/
theorem AuthInv.serve {o : AuthOracle} {s : AuthStmt} {r : Except AuthExn (AuthReply s)}
    (allowed : v.Sane → v.Relies env s) (h : authServe o i db s = some (r, db')) :
    AuthInv env db' (views.set i (v.observe s r)) := by
  have known := inv.knows i v hi
  have relies := allowed known.sane
  have rolled : Knows env (db.rollback i) i v.ended :=
    known.ended (fun a => Cell.held_rollback) fun a _ => CellStep.rollback.evolves (inv.derived a)
  rcases authServe_kinds h v with ⟨same, rfl | ⟨rfl, rfl⟩⟩ | ⟨rfl, same, rfl⟩ | ⟨rfl, same, rfl⟩ |
    ⟨answer, inner, he, same⟩
  · rw [same]
    exact inv.rollback hi rolled rfl rfl
  · rw [same]
    have over_ : Knows env (db.commit i) i v.ended :=
      known.ended (fun a => Cell.held_commit) fun a _ => CellStep.commit.evolves (inv.derived a)
    exact inv.commit hi relies (.inr rfl) over_ rfl
  · rw [same]
    exact inv.rollback hi { rolled with sane := ⟨known.sane, trivial⟩, uses := nofun } rfl rfl
  · rw [same]
    exact inv.commit hi relies (.inl rfl)
      { known.commit inv.derived with sane := ⟨known.sane, trivial⟩, uses := nofun } rfl
  · rw [same]
    refine inv.uncommitted hi (exec_cell he) (exec_committed he inner.1) (fun t => ?_)
      (known.within relies inner he inv.current inv.derived) (consumed_within inner)
      fun r => inv.checked_answered inner he
    exact (inv.distinct t).exec authEvolution (fun _ _ _ => AuthTable.tokenHash_kept)
      (fun _ _ _ => AuthTable.clashes_of_tokenHash) he

end Uncommitted

/-! ### Runs -/

theorem knows_call (clear : ∀ a, (db.cell a).held i = none) (call : AuthCall) :
    Knows env db i { call := call } where
  sane := trivial
  mirrors := Tx.mirrors_reset clear
  lists _ := nofun
  guarded _ := nofun
  version _ w _ held := nomatch (clear _).symm.trans held
  inserted _ _ r _ new := nomatch (clear _).symm.trans new.2
  issued t o _ issued := by cases t <;> cases issued
  uses := nofun
  used := nofun
  unused := nofun
  checked := nofun
  reads := nofun

/-- At first nothing was issued. -/
theorem Unused.cell {t : AuthTable} (h : Unused db) (r : t.Row)
    (issued : AuthTable.openFor r = some userId ∨ AuthTable.tokenHash r = some userId)
    (k : String) : db.cell ⟨t, k⟩ = {} := by
  refine h.2 t k ?_ ?_
  · rintro rfl
    cases issued with
    | inl h => cases h
    | inr h => cases h
  · rintro rfl
    cases issued with
    | inl h => cases h
    | inr h => cases h

theorem authInv_start (h : Unused db) : AuthInv env db [] where
  knows i v hi := by simp at hi
  absent i _ a := by simp [Cell.held, h.1]
  derived a i r r' _ held := by simp [Cell.held, h.1] at held
  current t k r userId version committed open_ := by
    rw [h.cell r (.inl open_)] at committed
    cases committed
  single t k k' r r' userId _ committed _ open_ := by
    rw [h.cell r (.inl open_)] at committed
    cases committed
  distinct t k k' r r' x mem _ token := by
    rw [h.cell r (.inr token)] at mem
    cases mem
  once i j v w a hi := by simp at hi
  verified i v userId hi := by simp at hi
  checked i j v w r hi := by simp at hi
  registers i j v w userId hi := by simp at hi

/-- A call that starts has used nothing up. -/
theorem AuthInv.call (inv : AuthInv env db views) (call : AuthCall) :
    AuthInv env db (views ++ [({ call := call } : AuthView)]) := by
  have old : ∀ {j : Nat} {w : AuthView}, (views ++ [({ call := call } : AuthView)])[j]? = some w →
      views[j]? = some w ∨ views[j]? = none ∧ w = { call := call } := by
    intro j w hj
    rw [List.getElem?_append] at hj
    split_ifs at hj with bound
    · exact .inl hj
    · rw [List.getElem?_singleton] at hj
      split_ifs at hj
      cases hj
      exact .inr ⟨List.getElem?_eq_none (by omega), rfl⟩
  have user : ∀ {j : Nat} {w : AuthView} {a : Addr authSchema},
      (views ++ [({ call := call } : AuthView)])[j]? = some w → w.consumed = some a →
        views[j]? = some w := by
    intro j w a hj consumed
    rcases old hj with hj | ⟨-, rfl⟩
    · exact hj
    · cases consumed
  refine { inv with
    knows := fun j w hj => ?_, absent := fun j hj => ?_
    once := fun j j' w w' a hj hj' h h' => inv.once j j' w w' a (user hj h) (user hj' h') h h'
    verified := fun j w userId hj h => inv.verified j w userId (user hj h.choose_spec.1) h
    checked := fun j j' w w' r hj hj' known h => ?_
    registers := fun j j' w w' userId hj hj' h h' =>
      inv.registers j j' w w' userId (user hj h.choose_spec.1) (user hj' h'.choose_spec.1) h h' }
  · rcases old hj with hj | ⟨absent, rfl⟩
    · exact inv.knows j w hj
    · exact knows_call (inv.absent j absent) call
  · refine inv.absent j ?_
    rw [List.getElem?_eq_none_iff] at hj ⊢
    rw [List.length_append] at hj
    omega
  · rcases old hj with hj | ⟨-, rfl⟩
    · exact inv.checked j j' w w' r hj (user hj' h.choose_spec.1) known h
    · cases known

theorem reachable_authInv {s : Pool AuthReply AuthExn AuthOutcome AuthView (Db authSchema)}
    (h : (authSystem env).Reachable s) : AuthInv env s.shared s.views := by
  refine Workload.invariant (authWorkload_follows env) (I := AuthInv env) ?_ ?_ ?_ h
  · exact fun db unused => authInv_start unused
  · exact fun db views call inv => inv.call call
  · intro db views i o v s r db' inv hi allowed served
    exact inv.serve hi allowed served

end Invariant

/-! ## Versions -/

section Versions

variable {env : AuthEnv} {db db₀ db' : Db authSchema} {views : List AuthView} {i : Nat}
  {v : AuthView} {o : AuthOracle} {s : AuthStmt} {r : Except AuthExn (AuthReply s)}

/-- The users and the sessions were read on no earlier version than that of the database, and the
sessions are later versions of its rows. -/
structure ReadSince (db₀ : Db authSchema) (v : AuthView) : Prop where
  users : ∀ user ∈ v.users, versionOf db₀ user.id ≤ user.securityVersion
  sessions : ∀ l ∈ v.sessions, versionOf db₀ l.row.userId ≤ l.asOf
  rows : ∀ l ∈ v.sessions, ∀ session : SessionRow,
    (db₀.cell ⟨.sessions, l.row.id⟩).committed = some session →
      AuthTable.Evolves (t := .sessions) session l.row

/-- The session is visible, on this version. -/
def ReadFrom (db : Db authSchema) (i : Nat) (l : Flow.Loaded) : Prop :=
  l.asOf = versionOf db l.row.userId ∧
    (db.cell ⟨.sessions, l.row.id⟩).visible i = some l.row

/-- What a statement reads is visible. -/
theorem reads_answered (h : authServe o i db s = some (r, db')) :
    (∀ user ∈ (v.observe s r).users, user ∈ v.users ∨
      (db.cell ⟨.users, user.id⟩).visible i = some user) ∧
    ∀ l ∈ (v.observe s r).sessions, l ∈ v.sessions ∨ ReadFrom db i l := by
  have quiet : (v.observe s r).users = v.users → (v.observe s r).sessions = v.sessions →
      (∀ user ∈ (v.observe s r).users, user ∈ v.users ∨
        (db.cell ⟨.users, user.id⟩).visible i = some user) ∧
      ∀ l ∈ (v.observe s r).sessions, l ∈ v.sessions ∨ ReadFrom db i l :=
    fun users sessions => ⟨fun user mem => .inl (users ▸ mem), fun l mem => .inl (sessions ▸ mem)⟩
  rcases authServe_cases h with ⟨e, rfl, -⟩ | ⟨answer, he, rfl⟩
  · exact quiet rfl rfl
  · cases s with
    | select t q =>
      cases he
      cases t with
      | users =>
        exact ⟨fun user mem => (List.mem_append.1 mem).symm.imp_right fun found =>
          (Db.mem_rows.1 found).1, fun l mem => .inl mem⟩
      | sessions =>
        refine ⟨fun user mem => .inl mem, fun l mem => (List.mem_append.1 mem).symm.imp_right ?_⟩
        intro found
        obtain ⟨row, seen, rfl⟩ := List.mem_map.1 found
        exact ⟨rfl, (Db.mem_rows.1 seen).1⟩
      | _ => exact quiet rfl rfl
    | lock t k q => exact quiet rfl rfl
    | update t k q change =>
      refine quiet ?_ ?_ <;>
      · simp only [AuthView.observe, AuthView.note]
        split_ifs <;> rfl
    | insert t row =>
      refine quiet ?_ ?_ <;>
      · simp only [AuthView.observe, AuthView.note]
        split_ifs
        · cases t <;> rfl
        · rfl
    | commit => exact quiet rfl rfl
    | rollback => exact quiet rfl rfl

variable (inv : AuthInv env db views) (hi : views[i]? = some v)

include inv hi

/-- A call sees a user on no earlier version than the committed one. -/
theorem AuthInv.versionOf_le {userId : String} {user : User}
    (seen : (db.cell ⟨.users, userId⟩).visible i = some user) :
    versionOf db userId ≤ user.securityVersion := by
  cases committed : (db.cell ⟨.users, userId⟩).committed with
  | none => simp [versionOf, committed]
  | some c =>
    rw [versionOf_eq committed]
    rcases Option.or_eq_some_iff.1 seen with held | ⟨-, same⟩
    · rcases (inv.knows i v hi).version userId user c held committed with kept | ⟨-, next, -⟩
      · exact kept.ge
      · omega
    · rw [committed] at same
      cases same
      exact Nat.le_refl _

/-- A version never decreases. -/
theorem AuthInv.version_grows (h : authServe o i db s = some (r, db')) (userId : String) :
    versionOf db userId ≤ versionOf db' userId := by
  cases committed : (db.cell ⟨.users, userId⟩).committed with
  | none => simp [versionOf, committed]
  | some c =>
    obtain ⟨c', committed', -⟩ := (authServe_cell h _).evolves (inv.derived _) committed
    rw [versionOf_eq committed']
    by_cases same : (db'.cell ⟨.users, userId⟩).committed = (db.cell ⟨.users, userId⟩).committed
    · rw [same, committed] at committed'
      cases committed'
      exact (versionOf_eq committed).le
    · refine inv.versionOf_le hi ?_
      rcases authServe_kinds h v with ⟨-, rfl | ⟨-, rfl⟩⟩ | ⟨-, -, rfl⟩ | ⟨-, -, rfl⟩ |
        ⟨answer, inner, he, -⟩
      · exact absurd Cell.committed_rollback same
      · exact Cell.committed_commit.symm.trans committed'
      · exact absurd Cell.committed_rollback same
      · exact Cell.committed_commit.symm.trans committed'
      · exact absurd (exec_committed he inner.1 _) same

theorem AuthInv.readSince (h : authServe o i db s = some (r, db'))
    (grown : ∀ userId, versionOf db₀ userId ≤ versionOf db userId) (evolved : DbEvolves db₀ db)
    (before : ReadSince db₀ v) : ReadSince db₀ (v.observe s r) := by
  obtain ⟨users, sessions⟩ := reads_answered (v := v) h
  refine ⟨fun user mem => ?_, fun l mem => ?_, fun l mem session committed => ?_⟩
  · rcases users user mem with old | seen
    · exact before.users user old
    · exact (grown user.id).trans (inv.versionOf_le hi seen)
  · rcases sessions l mem with old | ⟨read, -⟩
    · exact before.sessions l old
    · exact read ▸ grown l.row.userId
  · rcases sessions l mem with old | ⟨-, seen⟩
    · exact before.rows l old session committed
    · obtain ⟨row, committed', rel⟩ := evolved ⟨.sessions, l.row.id⟩ session committed
      exact authEvolution.trans (t := .sessions) rel ((inv.derived _).visible committed' seen)

end Versions

/-! ## Results -/

/-- The context belongs to the user. -/
def Flow.AuthContext.userId : Flow.AuthContext → String
  | .access _ user _ => user.id
  | .refreshed _ session => session.row.userId

/-- The access token that is presented, or minted by the refresh. -/
def Flow.AuthContext.accessToken : Flow.AuthContext → AccessToken
  | .access token _ _ => token
  | .refreshed tokens _ => tokens.accessToken

/-- The session of the context. -/
def Flow.AuthContext.session : Flow.AuthContext → SessionRow
  | .access _ _ session => session.row
  | .refreshed _ session => session.row

/-- The session of the context and its access token are the user's, and they are on this version or
a later one. -/
structure Flow.AuthContext.Since (version : Nat) (context : Flow.AuthContext) : Prop where
  owner : context.session.userId = context.userId
  sub : context.accessToken.sub = context.userId
  sid : context.accessToken.sid = context.session.id
  token : version ≤ context.accessToken.sv
  based : version ≤ context.session.basis

section Results

variable {env : AuthEnv}

abbrev AuthPool := Pool AuthReply AuthExn AuthOutcome AuthView (Db authSchema)

variable {s s' : AuthPool}

/-- A call that has returned has achieved what it returned. -/
theorem returned_achieved (h : (authSystem env).Reachable s) {i : Nat}
    {thread : Thread AuthReply AuthExn AuthOutcome AuthView} {outcome : AuthOutcome}
    (hi : s.threads[i]? = some thread) (returned : thread.program = .pure outcome) :
    Achieved env thread.view outcome := by
  have sat := Workload.sat_threads (W := authWorkload env)
    (Q := fun w r => ∀ outcome, r = .ok outcome → Achieved env w outcome)
    (fun call => Sat.mono (program_follows env call) fun _ _ h => h.2) h thread
    (List.mem_of_getElem? hi)
  rw [returned] at sat
  exact sat outcome rfl

/-- What is committed only evolves in a run. -/
theorem run_evolves (h : (authSystem env).Reachable s) (steps : (authSystem env).Steps s s') :
    DbEvolves s.shared s'.shared := by
  refine Workload.guarantee (W := authWorkload env) (I := AuthInv env) (authWorkload_follows env)
    .refl (fun _ _ _ => .trans) (fun s h => reachable_authInv h) ?_ h steps
  intro db views i o v s r db' inv _ _ served a r committed
  exact (authServe_cell served a).evolves (inv.derived a) committed

/-- A version never decreases, and a call reads nothing older than its start. -/
theorem run_reads (h : (authSystem env).Reachable s) (steps : (authSystem env).Steps s s') :
    (∀ userId, versionOf s.shared userId ≤ versionOf s'.shared userId) ∧
    ∀ i view, s.views.length ≤ i → s'.views[i]? = some view → ReadSince s.shared view := by
  obtain ⟨⟨grown, -⟩, -, views⟩ := Workload.later (W := authWorkload env)
    (authWorkload_follows env)
    (G := fun db => (∀ userId, versionOf s.shared userId ≤ versionOf db userId) ∧
      DbEvolves s.shared db)
    (J := ReadSince s.shared) h ⟨fun _ => Nat.le_refl _, .refl _⟩
    (fun call => ⟨nofun, nofun, nofun⟩)
    (fun t i o view c r shared reachable kept hi _ served => by
      have inv := reachable_authInv reachable
      refine ⟨⟨fun userId => (kept.1 userId).trans (inv.version_grows hi served userId),
        kept.2.trans fun a r committed => ?_⟩, inv.readSince hi served kept.1 kept.2⟩
      exact (authServe_cell served a).evolves (inv.derived a) committed) steps
  exact ⟨grown, views⟩

/-- An open session is on the version of its user. -/
theorem basis_of_open (h : (authSystem env).Reachable s) {k : String} {session : SessionRow}
    (committed : (s.shared.cell ⟨.sessions, k⟩).committed = some session)
    (live : session.revokedAt = none) : session.basis = versionOf s.shared session.userId := by
  obtain ⟨user, found, same⟩ := (reachable_authInv h).current .sessions k session session.userId
    session.basis committed (if_pos live) rfl
  exact same.symm.trans (versionOf_eq found).symm

/-- A call that starts later grants no context on a version from before. -/
theorem granted_since (h : (authSystem env).Reachable s) (steps : (authSystem env).Steps s s')
    {i : Nat} {thread : Thread AuthReply AuthExn AuthOutcome AuthView}
    {context : Flow.AuthContext} (bound : s.threads.length ≤ i) (hi : s'.threads[i]? = some thread)
    (returned : thread.program = .pure (.context (some context))) :
    ReadSince s.shared thread.view ∧ context.SupportedBy thread.view ∧
      context.Since (versionOf s.shared context.userId) := by
  have view := Workload.getElem?_views hi
  have known := (reachable_authInv (h.steps steps)).knows i thread.view view
  have read : ReadSince s.shared thread.view := by
    refine (run_reads h steps).2 i thread.view ?_ view
    rwa [Pool.views, List.length_map]
  have based : ∀ l ∈ thread.view.sessions, l.row.revokedAt = none →
      versionOf s.shared l.row.userId ≤ l.row.basis := fun l mem live =>
    (read.sessions l mem).trans (known.reads l mem live)
  have supported := (returned_achieved (h.steps steps) hi returned).granted context rfl
  refine ⟨read, supported, ?_⟩
  cases context with
  | access token user session =>
    obtain ⟨readUser, readSession, live, owner, version, named⟩ := supported
    obtain ⟨sub, sid⟩ := named known.sane
    have since := based session readSession live
    rw [owner] at since
    exact ⟨owner, sub.symm, sid.symm, version ▸ read.users user readUser, since⟩
  | refreshed tokens session =>
    obtain ⟨user, readUser, minted, owned⟩ := supported.minted
    have owner := owned known.sane
    have since := read.users user readUser
    rw [owner] at since
    exact ⟨rfl, (congrArg AccessToken.sub minted).trans owner, congrArg AccessToken.sid minted,
      since.trans_eq (congrArg AccessToken.sv minted).symm,
      based session supported.read (supported.live known.sane)⟩

/-- A version never decreases, open sessions are on the version of their user, and new credentials
revoke the sessions from before; a call grants no context on a version older than its start. -/
theorem credential_change_revokes (h : (authSystem env).Reachable s)
    (steps : (authSystem env).Steps s s') (userId : String) :
    versionOf s.shared userId ≤ versionOf s'.shared userId ∧
    (∀ k (session : SessionRow), (s'.shared.cell ⟨.sessions, k⟩).committed = some session →
      session.userId = userId → session.revokedAt = none →
      session.basis = versionOf s'.shared userId) ∧
    (∀ k (session session' : SessionRow),
      (s.shared.cell ⟨.sessions, k⟩).committed = some session → session.userId = userId →
      versionOf s.shared userId < versionOf s'.shared userId →
      (s'.shared.cell ⟨.sessions, k⟩).committed = some session' → session'.revokedAt ≠ none) ∧
    ∀ i thread context, s.threads.length ≤ i → s'.threads[i]? = some thread →
      thread.program = .pure (.context (some context)) → context.userId = userId →
      context.Since (versionOf s.shared userId) := by
  refine ⟨(run_reads h steps).1 userId, ?_, ?_, ?_⟩
  · rintro k session committed rfl live
    exact basis_of_open (h.steps steps) committed live
  · rintro k session session' committed rfl newer committed' live
    obtain ⟨_, same, rel⟩ := run_evolves h steps ⟨.sessions, k⟩ session committed
    rw [committed'] at same
    cases same
    obtain ⟨-, owner, basis, revoked⟩ := rel
    have before : session.revokedAt = none := by_contra fun over_ => revoked over_ live
    have old := basis_of_open h committed before
    have new := basis_of_open (h.steps steps) committed' live
    rw [owner, basis, old] at new
    exact absurd newer (new ▸ Nat.lt_irrefl _)
  · rintro i thread context bound hi returned rfl
    exact (granted_since h steps bound hi returned).2.2

/-- The password mode, with plain passwords. -/
def plainAuth : AuthEnv where
  settings := {
    sessionIdleMinutes := 30
    refreshTokenHours := 8
    hashToken := fun raw => "#" ++ raw
    successorRefreshToken := fun raw => "+" ++ raw }
  localPassword := true
  normalizeEmail := .ok
  verify password hash := decide (hash = some password)
  hash := id
  needsRehash _ := false
  validatePassword password _ := .ok password

/-- One verified account. -/
def oneAccount : Db authSchema := Db.load [
  ⟨.roles, "user"⟩,
  ⟨.users, ({
    id := "u", email := "u@agency.gov", status := .active, emailVerifiedAt := some 0
    passwordHash := some "old" } : User)⟩]

theorem unused_oneAccount : Unused oneAccount := by
  refine ⟨Db.lock_load _, fun t k users roles => ?_⟩
  cases t with
  | users => exact absurd rfl users
  | roles => exact absurd rfl roles
  | _ => rfl

theorem reachable_oneAccount {is : List (Turn AuthCall AuthOracle)} {s : AuthPool}
    (h : run (authWorkload plainAuth).step ⟨oneAccount, []⟩ is = some s) :
    (authSystem plainAuth).Reachable s := by
  have initial : (authSystem plainAuth).Reachable ⟨oneAccount, []⟩ :=
    .init ⟨unused_oneAccount, rfl⟩
  exact initial.steps (steps_of_run h)

/-- An answer to the thread `i`. -/
def answerOf (i : Nat) : Turn AuthCall AuthOracle :=
  .answer i { now := 0, fresh := fun n => if n = 0 then "id" else "raw" }

def signingIn : List (Turn AuthCall AuthOracle) :=
  .start (.signIn "u@agency.gov" "old") :: List.replicate 10 (answerOf 0)

def changingPassword : List (Turn AuthCall AuthOracle) :=
  .start (.changePassword "u" "old" "new") :: List.replicate 7 (answerOf 1)

theorem credential_change_revokes_signed_in : ∃ s s' : AuthPool,
    (authSystem plainAuth).Reachable s ∧ (authSystem plainAuth).Steps s s' ∧
    ∃ session session' : SessionRow,
      (s.shared.cell ⟨.sessions, "id"⟩).committed = some session ∧ session.revokedAt = none ∧
      (s'.shared.cell ⟨.sessions, "id"⟩).committed = some session' ∧ session'.revokedAt ≠ none := by
  have outcome : ((run (authWorkload plainAuth).step ⟨oneAccount, []⟩ signingIn).bind fun s =>
      (run (authWorkload plainAuth).step s changingPassword).bind fun s' =>
        (show Option SessionRow from (s.shared.cell ⟨.sessions, "id"⟩).committed).bind fun session =>
          (show Option SessionRow from (s'.shared.cell ⟨.sessions, "id"⟩).committed).map fun _ =>
            decide (session.userId = "u" ∧ session.revokedAt = none ∧
              versionOf s.shared "u" < versionOf s'.shared "u")) = some true := by decide +kernel
  obtain ⟨s, hs, outcome⟩ := Option.bind_eq_some_iff.1 outcome
  obtain ⟨s', hs', outcome⟩ := Option.bind_eq_some_iff.1 outcome
  obtain ⟨session, before, outcome⟩ := Option.bind_eq_some_iff.1 outcome
  obtain ⟨session', after, outcome⟩ := Option.map_eq_some_iff.1 outcome
  obtain ⟨owner, live, newer⟩ := of_decide_eq_true outcome
  have reachable := reachable_oneAccount hs
  have steps : (authSystem plainAuth).Steps s s' := steps_of_run hs'
  exact ⟨s, s', reachable, steps, session, session', before, live, after,
    (credential_change_revokes reachable steps "u").2.2.1 "id" session session' before owner newer
      after⟩

/-- A refresh token of the session was exchanged for the tokens. -/
def Exchanged (s : AuthPool) (tokens : SessionTokens) (session : SessionRow) : Prop :=
  ∃ (i : Nat) (thread : Thread AuthReply AuthExn AuthOutcome AuthView) (loaded : Flow.Loaded),
    s.threads[i]? = some thread ∧
      thread.program = .pure (.context (some (.refreshed tokens loaded))) ∧ loaded.row = session

/-- A call that has started after `s` has granted the context. -/
def GrantedAfter (s s' : AuthPool) (context : Flow.AuthContext) : Prop :=
  ∃ (i : Nat) (thread : Thread AuthReply AuthExn AuthOutcome AuthView),
    s.threads.length ≤ i ∧ s'.threads[i]? = some thread ∧
      thread.program = .pure (.context (some context))

theorem Flow.AuthContext.SupportedBy.read {v : AuthView} {context : Flow.AuthContext}
    (h : context.SupportedBy v) : ∃ l ∈ v.sessions, l.row = context.session := by
  cases context with
  | access token user session => exact ⟨session, h.2.1, rfl⟩
  | refreshed tokens session => exact ⟨session, Granted.read h, rfl⟩

/-- The tokens that a refresh token was exchanged for belong to its session. -/
theorem Exchanged.sid (h : (authSystem env).Reachable s) {tokens : SessionTokens}
    {session : SessionRow} (exchanged : Exchanged s tokens session) :
    tokens.accessToken.sid = session.id := by
  obtain ⟨i, thread, loaded, hi, returned, rfl⟩ := exchanged
  obtain ⟨user, -, minted, -⟩ := Granted.minted ((returned_achieved h hi returned).granted _ rfl)
  exact congrArg AccessToken.sid minted

/-- Credentials that have changed end what was built on the earlier ones.  Sessions are only open on
the current version; no call that starts later accepts an access token of an earlier version,
exchanges a refresh token of an earlier session, or accepts what such a token was exchanged for, at
whatever time. -/
theorem earlier_sessions_are_dead (h : (authSystem env).Reachable s)
    (steps : (authSystem env).Steps s s') :
    (∀ k (session : SessionRow), (s'.shared.cell ⟨.sessions, k⟩).committed = some session →
      session.revokedAt = none → session.basis = versionOf s'.shared session.userId) ∧
    ∀ context, GrantedAfter s s' context →
      versionOf s.shared context.userId ≤ context.accessToken.sv ∧
      ∀ k (session : SessionRow), (s.shared.cell ⟨.sessions, k⟩).committed = some session →
        session.basis < versionOf s.shared session.userId →
        context.session.id ≠ k ∧
        ∀ tokens row, Exchanged s' tokens row → row.id = k →
          context.accessToken ≠ tokens.accessToken := by
  refine ⟨fun k session => basis_of_open (h.steps steps), ?_⟩
  rintro context ⟨i, thread, bound, hi, returned⟩
  obtain ⟨read, supported, since⟩ := granted_since h steps bound hi returned
  refine ⟨since.token, fun k session committed earlier => ?_⟩
  have other : context.session.id ≠ k := by
    rintro rfl
    obtain ⟨l, mem, row⟩ := supported.read
    rw [← row] at committed
    obtain ⟨-, owner, basis, -⟩ := read.rows l mem session committed
    have based := since.based
    rw [← since.owner, ← row, owner, basis] at based
    exact absurd based (Nat.not_le.2 earlier)
  refine ⟨other, ?_⟩
  rintro tokens row exchanged rfl same
  exact other (since.sid.symm.trans ((congrArg AccessToken.sid same).trans
    (exchanged.sid (h.steps steps))))

/-- The user signs in with the new password, and a request presents both access tokens. -/
def signingInAgain : List (Turn AuthCall AuthOracle) :=
  .start (.signIn "u@agency.gov" "new") ::
    List.replicate 10 (.answer 2 { now := 1, fresh := fun n => if n = 0 then "id2" else "raw2" }) ++
    .start (.getOptionalAuth ⟨false, [some ⟨"u", "id", 1⟩, some ⟨"u", "id2", 2⟩], [], []⟩ 1) ::
    List.replicate 4 (.answer 3 { now := 1 })

/-- The access token of the context that a call has returned. -/
def grantedToken (thread : Thread AuthReply AuthExn AuthOutcome AuthView) : Option AccessToken :=
  match thread.program with
  | .pure (.context (some context)) => some context.accessToken
  | _ => none

theorem grantedToken_spec {thread : Thread AuthReply AuthExn AuthOutcome AuthView}
    {token : AccessToken} (h : grantedToken thread = some token) :
    ∃ context, thread.program = .pure (.context (some context)) ∧ context.accessToken = token := by
  unfold grantedToken at h
  split at h
  · rename_i context program
    exact ⟨context, program, Option.some.inj h⟩
  · cases h

theorem earlier_sessions_are_dead_signed_in_again : ∃ s s' : AuthPool,
    (authSystem plainAuth).Reachable s ∧ (authSystem plainAuth).Steps s s' ∧
    ∃ context, GrantedAfter s s' context ∧ context.accessToken = ⟨"u", "id2", 2⟩ ∧
      context.session.id ≠ "id" := by
  have outcome : ((run (authWorkload plainAuth).step ⟨oneAccount, []⟩
      (signingIn ++ changingPassword)).bind fun s =>
        (run (authWorkload plainAuth).step s signingInAgain).bind fun s' =>
          (show Option SessionRow from (s.shared.cell ⟨.sessions, "id"⟩).committed).bind
            fun session => (s'.threads[3]?).map fun thread =>
              decide (grantedToken thread = some ⟨"u", "id2", 2⟩ ∧ s.threads.length ≤ 3 ∧
                session.basis < versionOf s.shared session.userId)) = some true := by
    decide +kernel
  obtain ⟨s, hs, outcome⟩ := Option.bind_eq_some_iff.1 outcome
  obtain ⟨s', hs', outcome⟩ := Option.bind_eq_some_iff.1 outcome
  obtain ⟨session, committed, outcome⟩ := Option.bind_eq_some_iff.1 outcome
  obtain ⟨thread, ht, outcome⟩ := Option.map_eq_some_iff.1 outcome
  obtain ⟨accepted, bound, earlier⟩ := of_decide_eq_true outcome
  obtain ⟨context, returned, token⟩ := grantedToken_spec accepted
  have reachable := reachable_oneAccount hs
  have steps : (authSystem plainAuth).Steps s s' := steps_of_run hs'
  have granted : GrantedAfter s s' context := ⟨3, thread, bound, ht, returned⟩
  exact ⟨s, s', reachable, steps, context, granted, token,
    (((earlier_sessions_are_dead reachable steps).2 context granted).2 "id" session committed
      earlier).1⟩

/-- The row of a token that a returned call has presented is used up by that call. -/
theorem returned_spent (h : (authSystem env).Reachable s) {i : Nat}
    {thread : Thread AuthReply AuthExn AuthOutcome AuthView} {outcome : AuthOutcome}
    (hi : s.threads[i]? = some thread) (returned : thread.program = .pure outcome)
    {t : AuthTable} {hash : String} (presents : thread.view.call.presents env = some (t, hash)) :
    ∃ k, thread.view.consumed = some ⟨t, k⟩ ∧ ∃ r : t.Row,
      (s.shared.cell ⟨t, k⟩).committed = some r ∧ AuthTable.tokenHash r = some hash ∧
      AuthTable.used r = true := by
  have used := (returned_achieved h hi returned).used (t, hash) presents
  obtain ⟨⟨t', k⟩, consumed⟩ := Option.isSome_iff_exists.1 used
  obtain ⟨r, committed, spent, hash', token, own⟩ :=
    ((reachable_authInv h).knows i thread.view (Workload.getElem?_views hi)).used _ consumed
  rw [presents] at own
  cases own
  exact ⟨k, consumed, r, committed, token, spent⟩

/-- Two calls that have presented one token are the same. -/
theorem eq_of_presents (h : (authSystem env).Reachable s) {i j : Nat}
    {thread other : Thread AuthReply AuthExn AuthOutcome AuthView} {outcome outcome' : AuthOutcome}
    (hi : s.threads[i]? = some thread) (returned : thread.program = .pure outcome)
    (hj : s.threads[j]? = some other) (returned' : other.program = .pure outcome')
    {t : AuthTable} {hash : String} (presents : thread.view.call.presents env = some (t, hash))
    (presents' : other.view.call.presents env = some (t, hash)) : i = j := by
  obtain ⟨k, consumed, r, committed, token, -⟩ := returned_spent h hi returned presents
  obtain ⟨k', consumed', r', committed', token', -⟩ := returned_spent h hj returned' presents'
  have inv := reachable_authInv h
  obtain rfl := inv.distinct t k k' r r' hash (Cell.mem_versions.2 (.inl committed))
    (Cell.mem_versions.2 (.inl committed')) token token'
  exact inv.once i j _ _ _ (Workload.getElem?_views hi) (Workload.getElem?_views hj) consumed
    consumed'

/-- Each token is used up by at most one call, and stays used. -/
theorem tokens_are_used_once (h : (authSystem env).Reachable s) {i : Nat}
    {thread : Thread AuthReply AuthExn AuthOutcome AuthView} {outcome : AuthOutcome}
    (hi : s.threads[i]? = some thread) (returned : thread.program = .pure outcome)
    {t : AuthTable} {hash : String} (presents : thread.view.call.presents env = some (t, hash)) :
    (∃ k r, (s.shared.cell ⟨t, k⟩).committed = some r ∧ AuthTable.tokenHash r = some hash ∧
      AuthTable.used r = true) ∧
    ∀ (j : Nat) (other : Thread AuthReply AuthExn AuthOutcome AuthView) outcome',
      s.threads[j]? = some other → other.program = .pure outcome' →
      other.view.call.presents env = some (t, hash) → j = i := by
  obtain ⟨k, -, r, committed, token, used⟩ := returned_spent h hi returned presents
  exact ⟨⟨k, r, committed, token, used⟩, fun j other outcome' hj returned' presents' =>
    eq_of_presents h hj returned' hi returned presents' presents⟩

/-- A call that has completed a registration has registered its user. -/
theorem registers_of_returned (h : (authSystem env).Reachable s) {i : Nat}
    {thread : Thread AuthReply AuthExn AuthOutcome AuthView} {outcome : AuthOutcome}
    (hi : s.threads[i]? = some thread) (returned : thread.program = .pure outcome) {k : String}
    {r : RegistrationVerification}
    (presents : thread.view.call.presents env = some (.verifications, r.tokenHash))
    (committed : (s.shared.cell ⟨.verifications, k⟩).committed = some r) :
    thread.view.Registers s.shared r.userId := by
  obtain ⟨k₀, consumed, r₀, committed₀, token₀, -⟩ := returned_spent h hi returned presents
  obtain rfl := (reachable_authInv h).distinct .verifications k k₀ r r₀ r.tokenHash
    (Cell.mem_versions.2 (.inl committed)) (Cell.mem_versions.2 (.inl committed₀)) rfl token₀
  exact ⟨k, consumed, r, committed, rfl⟩

/-- The registration of a user is completed by at most one call, whichever of its verifications the
calls present, and the user is verified then. -/
theorem registration_completes_once (h : (authSystem env).Reachable s) {i j : Nat}
    {thread other : Thread AuthReply AuthExn AuthOutcome AuthView} {outcome outcome' : AuthOutcome}
    (hi : s.threads[i]? = some thread) (returned : thread.program = .pure outcome)
    (hj : s.threads[j]? = some other) (returned' : other.program = .pure outcome')
    {hash hash' : String} (presents : thread.view.call.presents env = some (.verifications, hash))
    (presents' : other.view.call.presents env = some (.verifications, hash'))
    {k k' : String} {r r' : RegistrationVerification}
    (committed : (s.shared.cell ⟨.verifications, k⟩).committed = some r)
    (committed' : (s.shared.cell ⟨.verifications, k'⟩).committed = some r')
    (token : r.tokenHash = hash) (token' : r'.tokenHash = hash') (owner : r.userId = r'.userId) :
    i = j ∧ IsVerified s.shared r.userId := by
  have inv := reachable_authInv h
  subst token token'
  have own := registers_of_returned h hi returned presents committed
  have own' := registers_of_returned h hj returned' presents' committed'
  rw [← owner] at own'
  have view := Workload.getElem?_views hi
  exact ⟨inv.registers i j _ _ _ view (Workload.getElem?_views hj) own own',
    inv.verified i _ _ view own⟩

/-- Two calls complete one registration at the same moment. -/
def doubleRegistration : List (Turn AuthCall AuthOracle) :=
  .start (.requestSelfRegistration "n@agency.gov") :: List.replicate 9 (answerOf 0) ++
    [.start (.completeSelfRegistration "raw" "a"), .start (.completeSelfRegistration "raw" "b"),
      answerOf 1, answerOf 2, answerOf 1, answerOf 2] ++
    List.replicate 5 (answerOf 1) ++ List.replicate 3 (answerOf 2)

/-- The outcomes of the three calls, and the verification. -/
theorem doubleRegistration_outcome : ∃ s : AuthPool, (authSystem plainAuth).Reachable s ∧
    ∃ thread other : Thread AuthReply AuthExn AuthOutcome AuthView,
      s.threads[1]? = some thread ∧ thread.program = .pure .done ∧
      thread.view.call.presents plainAuth = some (.verifications, "#raw") ∧
      s.threads[2]? = some other ∧ (∃ e, other.program = .throw e) ∧
      ∃ r : RegistrationVerification, (s.shared.cell ⟨.verifications, "id"⟩).committed = some r ∧
        r.tokenHash = "#raw" := by
  have outcome : ((run (authWorkload plainAuth).step ⟨oneAccount, []⟩ doubleRegistration).bind
      fun s => (s.threads[1]?).bind fun thread => (s.threads[2]?).bind fun other =>
        (show Option RegistrationVerification from
          (s.shared.cell ⟨.verifications, "id"⟩).committed).map fun r =>
            (match thread.program with | .pure .done => true | _ => false) &&
            (match other.program with | .throw _ => true | _ => false) &&
            decide (thread.view.call.presents plainAuth = some (.verifications, "#raw") ∧
              r.tokenHash = "#raw")) = some true := by decide +kernel
  obtain ⟨s, hs, outcome⟩ := Option.bind_eq_some_iff.1 outcome
  obtain ⟨thread, ht, outcome⟩ := Option.bind_eq_some_iff.1 outcome
  obtain ⟨other, ho, outcome⟩ := Option.bind_eq_some_iff.1 outcome
  obtain ⟨r, committed, outcome⟩ := Option.map_eq_some_iff.1 outcome
  simp only [Bool.and_eq_true, decide_eq_true_eq] at outcome
  obtain ⟨⟨returned, raised⟩, presents, token⟩ := outcome
  refine ⟨s, reachable_oneAccount hs, thread, other, ht, ?_, presents, ho, ?_, r, committed, token⟩
  · split at returned
    · assumption
    · cases returned
  · split at raised
    · exact ⟨_, by assumption⟩
    · cases raised

theorem tokens_are_used_once_registration : ∃ s : AuthPool, (authSystem plainAuth).Reachable s ∧
    (∃ k r, (s.shared.cell ⟨.verifications, k⟩).committed = some r ∧
      AuthTable.tokenHash (t := .verifications) r = some "#raw" ∧
      AuthTable.used (t := .verifications) r = true) := by
  obtain ⟨s, reachable, thread, -, hi, returned, presents, -⟩ := doubleRegistration_outcome
  exact ⟨s, reachable, (tokens_are_used_once reachable hi returned presents).1⟩

theorem registration_completes_once_registration : ∃ s : AuthPool,
    (authSystem plainAuth).Reachable s ∧ ∃ r : RegistrationVerification,
      (s.shared.cell ⟨.verifications, "id"⟩).committed = some r ∧ IsVerified s.shared r.userId := by
  obtain ⟨s, reachable, thread, -, hi, returned, presents, -, -, r, committed, token⟩ :=
    doubleRegistration_outcome
  exact ⟨s, reachable, r, committed, (registration_completes_once reachable hi returned hi returned
    presents presents committed committed token token rfl).2⟩

/-- A user has at most one open reset and at most one open verification, and an open reset was
issued on the current credentials of its user. -/
theorem open_tokens_are_single (h : (authSystem env).Reachable s) :
    (∀ k k' (r r' : PasswordReset), (s.shared.cell ⟨.resets, k⟩).committed = some r →
      (s.shared.cell ⟨.resets, k'⟩).committed = some r' → r.userId = r'.userId →
      r.usedAt = none → r'.usedAt = none → k = k') ∧
    (∀ k k' (r r' : RegistrationVerification),
      (s.shared.cell ⟨.verifications, k⟩).committed = some r →
      (s.shared.cell ⟨.verifications, k'⟩).committed = some r' → r.userId = r'.userId →
      r.usedAt = none → r'.usedAt = none → k = k') ∧
    ∀ k (r : PasswordReset), (s.shared.cell ⟨.resets, k⟩).committed = some r → r.usedAt = none →
      r.basis = versionOf s.shared r.userId := by
  have inv := reachable_authInv h
  refine ⟨?_, ?_, ?_⟩
  · intro k k' r r' committed committed' owner unused unused'
    exact inv.single .resets k k' r r' r'.userId nofun committed committed'
      ((if_pos unused).trans (congrArg some owner)) (if_pos unused')
  · intro k k' r r' committed committed' owner unused unused'
    exact inv.single .verifications k k' r r' r'.userId nofun committed committed'
      ((if_pos unused).trans (congrArg some owner)) (if_pos unused')
  · intro k r committed unused
    obtain ⟨user, found, same⟩ := inv.current .resets k r r.userId r.basis committed
      (if_pos unused) rfl
    exact same.symm.trans (versionOf_eq found).symm

/-- A reset is requested, the password is changed, and another reset is requested; the reply to the
last commit is lost. -/
def resettingTwice : List (Turn AuthCall AuthOracle) :=
  .start (.requestPasswordReset "u@agency.gov") :: List.replicate 6 (answerOf 0) ++
    changingPassword ++ .start (.requestPasswordReset "u@agency.gov") ::
    List.replicate 4 (.answer 2 { now := 1, fresh := fun n => if n = 0 then "id2" else "raw2" }) ++
    [.answer 2 { raises := true, lost := true, now := 1 }]

/-- The older reset is used, and the open one is the only one and on the new credentials. -/
theorem open_tokens_are_single_reset : ∃ s : AuthPool, (authSystem plainAuth).Reachable s ∧
    ∃ older newer : PasswordReset, (s.shared.cell ⟨.resets, "id"⟩).committed = some older ∧
      older.usedAt ≠ none ∧ (s.shared.cell ⟨.resets, "id2"⟩).committed = some newer ∧
      newer.usedAt = none ∧ older.basis < newer.basis ∧ newer.basis = versionOf s.shared "u" ∧
      ∀ k (r : PasswordReset), (s.shared.cell ⟨.resets, k⟩).committed = some r → r.userId = "u" →
        r.usedAt = none → k = "id2" := by
  have outcome : ((run (authWorkload plainAuth).step ⟨oneAccount, []⟩ resettingTwice).bind fun s =>
      (show Option PasswordReset from (s.shared.cell ⟨.resets, "id"⟩).committed).bind fun older =>
        (show Option PasswordReset from (s.shared.cell ⟨.resets, "id2"⟩).committed).map fun newer =>
          decide (older.usedAt ≠ none ∧ newer.usedAt = none ∧ newer.userId = "u" ∧
            older.basis < newer.basis)) = some true := by decide +kernel
  obtain ⟨s, hs, outcome⟩ := Option.bind_eq_some_iff.1 outcome
  obtain ⟨older, before, outcome⟩ := Option.bind_eq_some_iff.1 outcome
  obtain ⟨newer, after, outcome⟩ := Option.map_eq_some_iff.1 outcome
  obtain ⟨used, unused, owner, later⟩ := of_decide_eq_true outcome
  have reachable := reachable_oneAccount hs
  obtain ⟨single, -, current⟩ := open_tokens_are_single reachable
  refine ⟨s, reachable, older, newer, before, used, after, unused, later, ?_, ?_⟩
  · exact owner ▸ current "id2" newer after unused
  · intro k r committed own open_
    exact single k "id2" r newer committed after (own.trans owner.symm) open_ unused

end Results

end DataMover
