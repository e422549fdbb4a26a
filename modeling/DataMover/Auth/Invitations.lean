import DataMover.Auth.Safety
import DataMover.Joint

/-!
# Invitations

Calls that issue, accept and revoke invitations side by side.  A call that issues one lists the
pending invitations of its address under the lock on its role, and revokes them by primary key;
another call for the address with the same role waits for the lock.  `InOrder` excludes the
statements that go wrong: a call lists the invitations while one with another role is about to
replace them, or it revokes one that was accepted meanwhile.  In all other runs an address has one
usable invitation, and no invitation is both accepted and revoked.
-/

namespace DataMover

open ReadCommitted Program Transition

/-! ## Calls -/

/-- The calls that issue, use up or revoke invitations. -/
inductive InvitationCall where
  | createInvitation (email roleName : String)
  | acceptInvitation (raw password : String)
  | revokeInvitation (id : String) (now : Time)
  | requestSelfRegistration (email : String)

def InvitationCall.toAuth : InvitationCall → AuthCall
  | createInvitation email roleName => .createInvitation email roleName
  | acceptInvitation raw password => .acceptInvitation raw password
  | revokeInvitation id now => .revokeInvitation id now
  | requestSelfRegistration email => .requestSelfRegistration email

/-- The role of the invitation that a call issues. -/
def InvitationCall.role : InvitationCall → Option String
  | createInvitation _ roleName => some roleName
  | _ => none

/-- What is known of a call: the role that it invites to, and the locks and the lists of its
transaction. -/
structure InvitationView where
  role : Option String
  /-- All answers were possible. -/
  Sane : Prop := True
  tx : Tx authSchema := {}

namespace InvitationView

variable (v : InvitationView)

/-- The list that the locks of a transaction protect: the pending invitations of an address, under
the lock on the role. -/
def protects : (t : AuthTable) → t.Query → Bool
  | .invitations, (.pendingOf _ : InvitationQuery) =>
    v.role.any fun roleName => (v.tx.held ⟨.roles, roleName⟩).isSome
  | _, _ => false

/-- What is known after an answer; a statement that raises ends the transaction. -/
def observe (s : AuthStmt) : Except AuthExn (Stamped s.Answer) → InvitationView
  | .ok reply =>
    { v with
      Sane := v.Sane ∧ s.Possible v.tx.held reply.value
      tx := v.tx.observe v.protects s reply.value }
  | .error _ => { v with tx := {} }

/-- The address whose pending invitations the call has listed, to replace them. -/
def replacing : Option String :=
  (v.tx.listed .invitations).bind fun l =>
    match (show InvitationQuery from l.1) with
    | .pendingOf email => some email
    | _ => none

/-! ### What the statements rely on -/

/-- A call that issues an invitation lists invitations once in a transaction. -/
def MaySelect : AuthTable → Prop
  | .invitations => v.role ≠ none → v.tx.listed .invitations = none
  | _ => True

/-- Invitations are revoked by primary key, or changed while they are pending. -/
def MayUpdate : {t : AuthTable} → t.Query → t.Change → Prop
  | .invitations, (q : InvitationQuery), (change : InvitationChange) =>
    q = .any ∧ (∃ now, change = .revoke now) ∨
      ∀ r : Invitation, InvitationQuery.holds r q = true → r.Pending
  | _, _, _ => True

/-- An invitation is issued when no pending one of the address is left. -/
def MayInsert : {t : AuthTable} → t.Row → Prop
  | .invitations, (row : Invitation) =>
    row.Pending ∧ v.tx.listed .invitations = some ((.pendingOf row.email : InvitationQuery), [])
  | _, _ => True

def Relies : AuthStmt → Prop
  | .select t _ => v.MaySelect t
  | .update _ _ q change => MayUpdate q change
  | .insert _ row => v.MayInsert row
  | _ => True

end InvitationView

/-- The protocol of the invitations. -/
def invitationProtocol : Protocol AuthReply AuthExn InvitationView where
  Allowed v s := v.Sane → v.Relies s
  observe v s answer := v.observe s answer

/-- Concurrent calls over one database. -/
def invitationWorkload (env : AuthEnv) :
    Workload AuthReply AuthExn AuthOutcome InvitationView (Db authSchema) InvitationCall
      AuthOracle where
  protocol := invitationProtocol
  program call := call.toAuth.program env
  view call := { role := call.role }
  serve := authServe

/-- All interleavings of the calls. -/
def invitationSystem (env : AuthEnv) := (invitationWorkload env).system Unused

abbrev InvitationPool := Pool AuthReply AuthExn AuthOutcome InvitationView (Db authSchema)

/-- The invitation can be accepted. -/
def Invitation.Usable (invitation : Invitation) (now : Time) : Prop :=
  invitation.Pending ∧ now < invitation.expiresAt

instance (invitation : Invitation) (now : Time) : Decidable (invitation.Usable now) :=
  inferInstanceAs (Decidable (_ ∧ _))

/-- The invitation is not both accepted and revoked. -/
def Invitation.Exclusive (invitation : Invitation) : Prop :=
  invitation.acceptedAt = none ∨ invitation.revokedAt = none

instance (invitation : Invitation) : Decidable invitation.Exclusive :=
  inferInstanceAs (Decidable (_ ∨ _))

/-- No address has two usable invitations, and no invitation is both accepted and revoked. -/
structure InvitationsSound (db : Db authSchema) : Prop where
  single : ∀ (now : Time) k k' (r r' : Invitation),
    (db.cell ⟨.invitations, k⟩).committed = some r →
    (db.cell ⟨.invitations, k'⟩).committed = some r' →
    r.email = r'.email → r.Usable now → r'.Usable now → k = k'
  exclusive : ∀ k (r : Invitation), (db.cell ⟨.invitations, k⟩).committed = some r → r.Exclusive

/-! ## Orderly runs -/

/-- A call that lists the pending invitations of an address to replace them finds no call with
another role that has listed them and is not over. -/
def uncontested (views : List InvitationView) (v : InvitationView) :
    {t : AuthTable} → t.Query → Bool
  | .invitations, (.pendingOf email : InvitationQuery) =>
    decide (v.role ≠ none → ∀ w ∈ views, w.replacing = some email → w.role = v.role)
  | _, _ => true

/-- An invitation that is revoked by primary key is not accepted. -/
def unaccepted (db : Db authSchema) (i : Nat) (k : String) : {t : AuthTable} → t.Query → Bool
  | .invitations, (.any : InvitationQuery) =>
    decide (∀ r ∈ (show Option Invitation from (db.cell ⟨.invitations, k⟩).visible i),
      r.acceptedAt = none)
  | _, _ => true

def inOrderAt (views : List InvitationView) (db : Db authSchema) (i : Nat) (v : InvitationView) :
    AuthStmt → Bool
  | .select _ q => uncontested views v q
  | .update _ k q _ => unaccepted db i k q
  | _ => true

/-- The statement that is executed is in order. -/
def inOrder (s : InvitationPool) : Turn InvitationCall AuthOracle → Bool
  | .start _ => true
  | .answer i o => o.raises || (s.threads[i]?).all fun thread =>
    thread.program.head.all (inOrderAt s.views s.shared i thread.view)

def InOrder (s : InvitationPool) (turn : Turn InvitationCall AuthOracle) : Prop :=
  inOrder s turn = true

/-! ## What the programs rely on -/

namespace InvitationView

variable {v : InvitationView} {email : String}

theorem role_observe (s : AuthStmt) (answer : Except AuthExn (Stamped s.Answer)) :
    (v.observe s answer).role = v.role := by
  cases answer <;> rfl

theorem replacing_iff : v.replacing = some email ↔
    ∃ keys, v.tx.listed .invitations = some ((.pendingOf email : InvitationQuery), keys) := by
  constructor
  · intro h
    obtain ⟨⟨q, keys⟩, listed, h⟩ := Option.bind_eq_some_iff.1 h
    cases q with
    | pendingOf email' =>
      cases h
      exact ⟨keys, listed⟩
    | _ => cases h
  · rintro ⟨keys, listed⟩
    exact Option.bind_eq_some_iff.2 ⟨_, listed, rfl⟩

/-- A protected list holds the pending invitations of an address. -/
theorem protects_spec {q : InvitationQuery} (h : v.protects .invitations q = true) :
    (∃ email, q = .pendingOf email) ∧ ∃ roleName, v.role = some roleName ∧
      (v.tx.held ⟨.roles, roleName⟩).isSome = true := by
  cases q with
  | pendingOf email => exact ⟨⟨email, rfl⟩, (Option.any_eq_true _ _).1 h⟩
  | _ => cases h

end InvitationView

section Programs

variable {env : AuthEnv} {v w : InvitationView} {t : AuthTable} {q : t.Query} {change : t.Change}
  {email roleName raw password : String} {now : Time} {α β : Type}

/-- The program follows the protocol. -/
abbrev Abides (v : InvitationView) (p : AuthProgram α) : Prop :=
  Sat invitationProtocol (fun _ _ => True) v p

theorem Abides.execute {s : AuthStmt} {f : Stamped s.Answer → AuthProgram β}
    (relies : v.Sane → v.Relies s) (ok : ∀ reply, Abides (v.observe s (.ok reply)) (f reply)) :
    Abides v (Flow.execute s >>= f) :=
  Sat.call_bind relies ok fun _ => trivial

/-- A statement that every call may execute that issues no invitation. -/
def Modest (s : AuthStmt) : Prop := ∀ v : InvitationView, v.role = none → v.Relies s

theorem Abides.of_confined {p : AuthProgram α} (h : Confined Modest p) (none : v.role = none) :
    Abides v p :=
  Sat.mono (h.sat (I := fun v : InvitationView => v.role = .none) none fun v s none modest =>
    ⟨fun _ => modest v none, fun r => (InvitationView.role_observe s r).trans none⟩)
    fun _ _ _ => trivial

theorem modest_select : Modest (.select t q) := by
  intro v none
  cases t with
  | invitations => exact fun some => absurd none some
  | _ => trivial

theorem modest_insert {row : t.Row} (other : t ≠ .invitations) : Modest (.insert t row) := by
  intro v none
  cases t with
  | invitations => exact absurd rfl other
  | _ => trivial

theorem modest_update {k : String} (other : t ≠ .invitations) :
    Modest (.update t k q change) := by
  intro v none
  cases t with
  | invitations => exact absurd rfl other
  | _ => trivial

theorem modest_invitation {k : String} {q : InvitationQuery} {change : InvitationChange}
    (pending : ∀ r : Invitation, InvitationQuery.holds r q = true → r.Pending) :
    Modest (.update .invitations k q change) :=
  fun _ _ => .inr pending

theorem pending_of_pendingOf (r : Invitation)
    (h : InvitationQuery.holds r (.pendingOf email) = true) : r.Pending :=
  (of_decide_eq_true h : r.email = email ∧ r.Pending).2

/-! ### Calls that issue no invitation -/

theorem modest_end {s : AuthStmt} (h : s = .commit ∨ s = .rollback) : Modest s := by
  rintro v -
  rcases h with rfl | rfl <;> trivial

theorem confined_lockFirst (rows : List t.Row) (last : Stamped Unit) :
    Confined Modest (Flow.lockFirst t q rows last) := by
  induction rows generalizing last with
  | nil => trivial
  | cons row rows ih =>
    refine confined_call_bind (fun _ _ => trivial) fun locked => ?_
    split
    · trivial
    · exact ih _

theorem confined_forUpdate : Confined Modest (Flow.forUpdate t q) :=
  confined_call_bind modest_select fun _ => confined_lockFirst _ _

theorem confined_updateEach (modest : ∀ k, Modest (.update t k q change)) (rows : List t.Row) :
    Confined Modest (Flow.updateEach t q change rows) := by
  induction rows with
  | nil => trivial
  | cons row rows ih => exact confined_call_bind (modest _) fun _ => ih.bind fun _ => trivial

theorem confined_revokePending : Confined Modest (Flow.revokePending email now) :=
  (confined_call_bind modest_select fun _ =>
    confined_updateEach (fun _ => modest_invitation pending_of_pendingOf) _).bind fun _ => trivial

theorem confined_rollback {f : Stamped Unit → AuthProgram α} (rest : ∀ a, Confined Modest (f a)) :
    Confined Modest (Flow.rollback >>= f) :=
  confined_call_bind (modest_end (.inr rfl)) rest

theorem confined_commit {f : Stamped Unit → AuthProgram α} (rest : ∀ a, Confined Modest (f a)) :
    Confined Modest (Flow.commit >>= f) :=
  confined_call_bind (modest_end (.inl rfl)) rest

theorem confined_issueVerification {userId : String} :
    Confined Modest (Flow.issueVerification env userId now) := by
  refine confined_call_bind modest_select fun unused => ?_
  refine (confined_updateEach (t := .verifications) (fun _ => modest_update nofun) _).bind
    fun _ => ?_
  refine Confined.bind (confined_call_bind (modest_insert nofun) fun added => ?_) fun _ =>
    confined_commit fun _ => trivial
  split <;> trivial

theorem confined_requestSelfRegistration :
    Confined Modest (Flow.requestSelfRegistration env email) := by
  refine confined_lift.bind fun canonical => confined_forUpdate.bind fun role => ?_
  split
  · exact confined_rollback fun _ => trivial
  · refine confined_call_bind modest_select fun found => ?_
    dsimp only
    split
    · split
      · exact confined_rollback fun _ => trivial
      · refine confined_revokePending.bind fun _ => ?_
        refine confined_call_bind modest_select fun recent => ?_
        split_ifs
        · exact confined_issueVerification
        · exact confined_commit fun _ => trivial
    · refine confined_revokePending.bind fun _ => ?_
      refine confined_call_bind (modest_insert nofun) fun added => ?_
      split_ifs
      · exact confined_issueVerification
      · exact confined_rollback fun _ => trivial

theorem confined_acceptInvitation : Confined Modest (Flow.acceptInvitation env raw password) := by
  refine Confined.bind (confined_call_bind modest_select fun found => ?_) fun invitation => ?_
  · split
    · trivial
    · split <;> trivial
  · refine confined_call_bind modest_select fun account => ?_
    split
    · trivial
    · refine Confined.bind ?_ fun hash => ?_
      · unfold Flow.validateNew
        split
        · exact confined_lift
        · trivial
      · refine confined_call_bind modest_select fun role => ?_
        split
        · trivial
        · refine confined_call_bind (modest_invitation fun r h => (consumable_invitation h).2)
            fun consumed => ?_
          split
          · exact confined_rollback fun _ => trivial
          · refine confined_call_bind (modest_insert nofun) fun added => ?_
            split
            · exact confined_rollback fun _ => trivial
            · exact confined_commit fun _ => trivial

theorem confined_revokeInvitation {id : String} :
    Confined Modest (Flow.revokeInvitation id now) := by
  refine confined_call_bind (modest_invitation fun r h => of_decide_eq_true h) fun revoked => ?_
  split
  · exact confined_rollback fun _ => trivial
  · exact confined_commit fun _ => trivial

/-! ### Issuing an invitation -/

/-- The call has locked the row of its role, if there is one, and has listed no invitations. -/
def HasLockedRole (roleName : String) (v w : InvitationView) (reply : Stamped (Option String)) :
    Prop :=
  w.role = v.role ∧ w.tx.listed .invitations = v.tx.listed .invitations ∧
    ∀ name, reply.value = some name → w.Sane → (w.tx.held ⟨.roles, roleName⟩).isSome = true

theorem sat_lockFirst (rows : List String) (last : Stamped Unit) :
    Sat invitationProtocol (fun w r => ∀ reply, r = .ok reply → HasLockedRole roleName v w reply) v
      (Flow.lockFirst .roles roleName rows last) := by
  induction rows generalizing v last with
  | nil =>
    rintro reply ⟨⟩
    exact ⟨rfl, rfl, nofun⟩
  | cons row rows ih =>
    refine Sat.call_bind (fun _ => trivial) (fun locked => ?_) fun _ => nofun
    split
    · rename_i name found
      rintro reply ⟨⟩
      obtain ⟨value, now, drawn, versions⟩ := locked
      obtain rfl : value = some name := found
      refine ⟨rfl, Tx.listed_wrote_of_ne nofun, fun _ _ sane => ?_⟩
      have named : AuthTable.key (t := .roles) name = roleName :=
        of_decide_eq_true (p := AuthTable.key (t := .roles) name = roleName) (sane.2 name rfl).2
      rw [← named]
      exact congrArg Option.isSome Tx.held_wrote
    · rename_i missed
      obtain ⟨value, now, drawn, versions⟩ := locked
      obtain rfl : value = none := missed
      refine (ih _).mono fun w r locked reply same => ?_
      obtain ⟨role, listed, held⟩ := locked reply same
      exact ⟨role, listed.trans (Tx.listed_missed_of_ne nofun), held⟩

theorem sat_lockRole : Sat invitationProtocol
    (fun w r => ∀ reply, r = .ok reply → HasLockedRole roleName v w reply) v
    (Flow.lockRole roleName) := by
  refine Sat.call_bind (fun _ => trivial) (fun found => ?_) fun _ => nofun
  refine (sat_lockFirst _ _).mono fun w r locked reply same => ?_
  obtain ⟨role, listed, held⟩ := locked reply same
  have other : AuthTable.invitations ≠ .roles := nofun
  exact ⟨role, listed.trans (Tx.listed_select_of_ne other), held⟩

/-- Revoking the listed invitations leaves none. -/
theorem sat_markRevoked (email : String) (priors : List Invitation)
    (h : v.Sane → v.tx.Left .invitations (.pendingOf email : InvitationQuery) priors) :
    Sat invitationProtocol (fun w r => r = .ok () → w.Sane →
      w.tx.listed .invitations = some ((.pendingOf email : InvitationQuery), [])) v
      (Flow.markRevoked now priors) := by
  induction priors generalizing v with
  | nil => exact fun _ sane => (h sane).listed
  | cons prior rest ih =>
    refine Sat.bind (R := fun w r => r = .ok () → w.Sane →
      w.tx.Left .invitations (.pendingOf email : InvitationQuery) rest) ?_
      (fun w _ left => ih (left rfl)) fun _ _ _ => nofun
    refine Sat.call_bind (fun _ => .inl ⟨rfl, now, rfl⟩) (fun written => ?_) fun _ => nofun
    split
    · rename_i row found
      refine fun _ sane =>
        (h sane.1).update v.protects invitations_leave sane.2 (.inr fun missing => ?_)
      rw [missing] at found
      cases found
    · exact nofun

theorem abides_rollback {e : AuthExn} :
    Abides v (Flow.rollback >>= fun _ => (Flow.raise e : AuthProgram α)) :=
  .execute (fun _ => trivial) fun _ => trivial

theorem abides_createInvitation (role : v.role = some roleName)
    (unlisted : v.tx.listed .invitations = none) :
    Abides v (Flow.createInvitation env email roleName) := by
  refine Sat.bind (R := fun w _ => v = w) (sat_lift.2 rfl) (fun w canonical same => ?_)
    fun _ _ _ => trivial
  subst same
  refine Sat.bind sat_lockRole (fun w found locked => ?_) fun _ _ _ => trivial
  obtain ⟨kept, listed, held⟩ := locked found rfl
  refine Abides.execute (fun _ => trivial) fun account => ?_
  split
  · exact abides_rollback
  · split
    · exact abides_rollback
    · rename_i name same
      refine Abides.execute (fun _ _ => listed.trans unlisted) fun priors => ?_
      refine Sat.bind (sat_markRevoked canonical priors.value fun sane => ?_)
        (fun x _ left => ?_) fun _ _ _ => trivial
      · refine Tx.left_select ?_ _
        show (w.role).any _ = true
        rw [kept, role]
        exact held name same sane.1.1
      · refine Sat.bind (R := fun _ _ => True)
          (Sat.call_bind (fun sane => ⟨⟨rfl, rfl⟩, left rfl sane⟩) (fun added => ?_)
            fun _ => trivial) (fun _ _ _ => ?_) fun _ _ _ => trivial
        · split <;> trivial
        · exact Abides.execute (fun _ => trivial) fun _ => trivial

/-- The database session of a request is closed. -/
theorem abides_closing {p : AuthProgram Unit} (h : Abides v p) :
    Abides v (Flow.closing (p >>= fun _ => Pure.pure AuthOutcome.done)) := by
  refine Sat.bind (R := fun _ _ => True)
    (sat_attempt.2 (Sat.bind h (fun _ _ _ => trivial) fun _ _ _ => trivial))
    (fun w outcome _ => ?_) fun _ _ _ => trivial
  refine Sat.bind (R := fun _ _ => True)
    (sat_attempt.2 (sat_call.2 ⟨fun _ => trivial, fun _ => trivial⟩)) (fun _ _ _ => ?_)
    fun _ _ _ => trivial
  exact sat_lift.2 trivial

theorem invitationWorkload_follows (env : AuthEnv) : (invitationWorkload env).Follows := by
  intro call
  cases call with
  | createInvitation email roleName => exact abides_closing (abides_createInvitation rfl rfl)
  | acceptInvitation raw password =>
    exact abides_closing (.of_confined confined_acceptInvitation rfl)
  | revokeInvitation id now => exact abides_closing (.of_confined confined_revokeInvitation rfl)
  | requestSelfRegistration email =>
    exact abides_closing (.of_confined confined_requestSelfRegistration rfl)

end Programs

/-! ## What is true of a call -/

section Knowledge

variable {db db' : Db authSchema} {i j : Nat} {v w : InvitationView} {email : String}

/-- The pending invitations of an address that the transaction sees are among these. -/
def PendingAmong (db : Db authSchema) (i : Nat) (email : String) (keys : List String) : Prop :=
  ∀ k (r : Invitation), (db.cell ⟨.invitations, k⟩).visible i = some r → r.email = email →
    r.Pending → k ∈ keys

theorem pendingOf_iff {r : Invitation} :
    InvitationQuery.holds r (.pendingOf email) = true ↔ r.email = email ∧ r.Pending :=
  decide_eq_true_iff

theorem pending_of_evolves {r r' : Invitation} (h : AuthTable.Evolves (t := .invitations) r r')
    (later : r'.Pending) : r.Pending := by
  obtain ⟨-, -, -, accepted, revoked⟩ := h
  exact ⟨by_contra fun done => accepted done later.1, by_contra fun done => revoked done later.2⟩

/-- What is true of the transaction `i` when this is known of it. -/
structure Informed (db : Db authSchema) (i : Nat) (v : InvitationView) : Prop where
  sane : v.Sane
  mirrors : v.tx.Mirrors db i
  lists : v.tx.Lists db i .invitations
  guarded : ∀ (q : InvitationQuery) keys, v.tx.listed .invitations = some (q, keys) →
    v.protects .invitations q = true
  inserted : ∀ k (r : Invitation), (db.cell ⟨.invitations, k⟩).New i r → r.Pending →
    v.replacing = some r.email ∧ PendingAmong db i r.email [k]

theorem Informed.pendingAmong (h : Informed db i v) {keys : List String}
    (listed : v.tx.listed .invitations = some ((.pendingOf email : InvitationQuery), keys)) :
    PendingAmong db i email keys :=
  fun k r seen same pending =>
    h.lists (.pendingOf email) keys listed k r seen (pendingOf_iff.2 ⟨same, pending⟩)

/-- A transaction that is over knows nothing. -/
theorem informed_of_clear (sane : v.Sane) (clean : v.tx = {})
    (clear : ∀ a, (db.cell a).held i = none) : Informed db i v where
  sane := sane
  mirrors := by
    rw [clean]
    exact Tx.mirrors_reset clear
  lists := by
    rw [clean]
    exact nofun
  guarded := by
    rw [clean]
    exact nofun
  inserted k r new := nomatch (clear _).symm.trans new.2

/-! ### Statements of the transaction -/

section Within

variable {s : AuthStmt} {reply : Stamped s.Answer} (h : Informed db i v) (inner : Inner s)
  (he : db.exec i s = some (reply.value, db'))

include h inner he

theorem Informed.guarded' {q : InvitationQuery} {keys : List String}
    (listed : (v.observe s (.ok reply)).tx.listed .invitations = some (q, keys)) :
    (v.observe s (.ok reply)).protects .invitations q = true := by
  have before : v.protects .invitations q = true := by
    rcases Tx.listed_observe listed with ⟨old, before⟩ | ⟨-, guarded⟩
    · exact h.guarded q old before
    · exact guarded
  obtain ⟨⟨email, rfl⟩, roleName, role, held⟩ := InvitationView.protects_spec before
  obtain ⟨name, held⟩ := Option.isSome_iff_exists.1 held
  rw [h.mirrors] at held
  obtain ⟨name', held', -⟩ := exec_held authEvolution he inner.1 inner.2 held
  refine (Option.any_eq_true _ _).2 ⟨roleName, role, Option.isSome_iff_exists.2 ⟨name', ?_⟩⟩
  exact (h.mirrors.observe v.protects he _).trans held'

theorem Informed.inserted' (relies : v.Relies s) {k : String} {r : Invitation}
    (new' : (db'.cell ⟨.invitations, k⟩).New i r) (pending : r.Pending) :
    (v.observe s (.ok reply)).replacing = some r.email ∧ PendingAmong db' i r.email [k] := by
  have kept : ∀ {email}, v.replacing = some email →
      (v.observe s (.ok reply)).replacing = some email := by
    intro email replacing
    obtain ⟨keys, listed⟩ := InvitationView.replacing_iff.1 replacing
    have unselected : ∀ q, s ≠ .select .invitations q := by
      rintro q rfl
      obtain ⟨-, roleName, role, -⟩ := InvitationView.protects_spec (h.guarded _ keys listed)
      have unlisted : v.tx.listed .invitations = none := relies (role ▸ Option.some_ne_none _)
      cases listed.symm.trans unlisted
    obtain ⟨keys', listed'⟩ := Tx.listed_kept listed inner.1 inner.2 unselected
    exact InvitationView.replacing_iff.2 ⟨keys', listed'⟩
  -- an invitation is inserted when the transaction sees no pending one of the address
  have clear : ∀ row : Invitation, s = .insert .invitations row →
      v.replacing = some row.email ∧ PendingAmong db i row.email [] := by
    rintro row rfl
    obtain ⟨-, listed⟩ := relies
    exact ⟨InvitationView.replacing_iff.2 ⟨[], listed⟩, h.pendingAmong listed⟩
  rcases exec_new authEvolution he inner.1 inner.2 new' with ⟨r₀, new, rel⟩ | ⟨inserted, key⟩
  · have pending₀ := pending_of_evolves rel pending
    obtain ⟨replacing, among⟩ := h.inserted k r₀ new pending₀
    rw [show r.email = r₀.email from rel.2.1]
    refine ⟨kept replacing, fun k' r' seen' same pending' => ?_⟩
    rcases exec_visible authEvolution he inner.1 inner.2 seen' with ⟨r₁, seen, rel'⟩ | ⟨stmt, -⟩
    · exact among k' r₁ seen (rel'.2.1.symm.trans same) (pending_of_evolves rel' pending')
    · exact absurd ((clear r' stmt).2 k r₀ new.visible same.symm pending₀) List.not_mem_nil
  · obtain ⟨replacing, none⟩ := clear r inserted
    refine ⟨kept replacing, fun k' r' seen' same pending' => List.mem_singleton.2 ?_⟩
    rcases exec_visible authEvolution he inner.1 inner.2 seen' with ⟨r₁, seen, rel'⟩ | ⟨stmt, key'⟩
    · exact absurd (none k' r₁ seen (rel'.2.1.symm.trans same) (pending_of_evolves rel' pending'))
        List.not_mem_nil
    · cases inserted.symm.trans stmt
      exact key'.symm.trans key

/-- What is known of a transaction stays true with its next statement. -/
theorem Informed.within (relies : v.Relies s) : Informed db' i (v.observe s (.ok reply)) where
  sane := ⟨h.sane, h.mirrors.possible he⟩
  mirrors := h.mirrors.observe _ he
  lists := h.lists.observe _ he
  guarded _ _ listed := h.guarded' inner he listed
  inserted _ _ new pending := h.inserted' inner he relies new pending

end Within

/-- What is known of a transaction stays true with the statements of another that does not replace
the invitations of the same address. -/
theorem Informed.other (hj : Informed db j w) (hi : Informed db i v) (ne : j ≠ i)
    (steps : ∀ a, CellStep i (db.cell a) (db'.cell a))
    (derived : ∀ a, (db.cell a).Derived authEvolution)
    (apart : ∀ email, w.replacing = some email → v.replacing ≠ some email) :
    Informed db' j w where
  sane := hj.sane
  mirrors := hj.mirrors.other steps ne
  lists := by
    refine hj.lists.other steps derived ne ?_ ?_
    · intro q keys listed r r' rel matching
      obtain ⟨⟨email, rfl⟩, -⟩ := InvitationView.protects_spec (hj.guarded q keys listed)
      obtain ⟨same, pending⟩ := pendingOf_iff.1 matching
      exact pendingOf_iff.2 ⟨rel.2.1.symm.trans same, pending_of_evolves rel pending⟩
    · intro q keys listed k r committed held
      obtain ⟨⟨email, rfl⟩, -⟩ := InvitationView.protects_spec (hj.guarded q keys listed)
      refine Bool.eq_false_iff.2 fun matching => ?_
      obtain ⟨rfl, pending⟩ := pendingOf_iff.1 matching
      exact apart _ (InvitationView.replacing_iff.2 ⟨keys, listed⟩)
        (hi.inserted k r ⟨committed, held⟩ pending).1
  guarded := hj.guarded
  inserted k r new pending := by
    obtain ⟨committed, held⟩ := new
    rw [(steps _).held_of_ne ne] at held
    rw [(steps _).committed_of_held ne held] at committed
    obtain ⟨replacing, among⟩ := hj.inserted k r ⟨committed, held⟩ pending
    refine ⟨replacing, fun k' r' seen same pending' => ?_⟩
    rcases (steps _).visible_of_ne (derived _) ne seen with ⟨r₀, old, rel⟩ | new
    · exact among k' r₀ old (rel.2.1.symm.trans same) (pending_of_evolves rel pending')
    · exact absurd (same ▸ (hi.inserted k' r' new pending').1) (apart _ replacing)

end Knowledge

/-! ## Runs -/

/-- What holds of the database and of the views of all calls in an orderly run. -/
structure InvitationInv (db : Db authSchema) (views : List InvitationView) : Prop where
  informed : ∀ i v, views[i]? = some v → Informed db i v
  absent : ∀ i, views[i]? = none → ∀ a, (db.cell a).held i = none
  derived : ∀ a, (db.cell a).Derived authEvolution
  apart : ∀ (i j : Nat) (v w : InvitationView) email, views[i]? = some v → views[j]? = some w →
    v.replacing = some email → w.replacing = some email → i = j
  single : ∀ k k' (r r' : Invitation), (db.cell ⟨.invitations, k⟩).committed = some r →
    (db.cell ⟨.invitations, k'⟩).committed = some r' → r.email = r'.email → r.Pending →
    r'.Pending → k = k'
  exclusive : ∀ k, ∀ r ∈ (db.cell ⟨.invitations, k⟩).versions,
    Invitation.Exclusive r

section Runs

variable {env : AuthEnv} {db db' : Db authSchema} {views : List InvitationView} {i : Nat}
  {v v' : InvitationView} {s : AuthStmt}

/-- A commit leaves one pending invitation of an address. -/
theorem InvitationInv.single_commit (inv : InvitationInv db views) (hi : views[i]? = some v)
    {k k' : String} {r r' : Invitation}
    (seen : ((db.commit i).cell ⟨.invitations, k⟩).committed = some r)
    (seen' : ((db.commit i).cell ⟨.invitations, k'⟩).committed = some r')
    (same : r.email = r'.email) (pending : r.Pending) (pending' : r'.Pending) : k = k' := by
  rw [Db.cell_commit, Cell.committed_commit] at seen seen'
  have alone : ∀ {k : String} {r : Invitation}, (db.cell ⟨.invitations, k⟩).committed = none →
      (db.cell ⟨.invitations, k⟩).visible i = some r → r.Pending →
      PendingAmong db i r.email [k] := by
    intro k r none seen pending
    rw [Cell.visible, none, Option.or_none] at seen
    exact ((inv.informed i v hi).inserted k r ⟨none, seen⟩ pending).2
  cases committed : (db.cell ⟨.invitations, k⟩).committed with
  | none =>
    exact (List.mem_singleton.1
      (alone committed seen pending k' r' seen' same.symm pending')).symm
  | some r₀ =>
    cases committed' : (db.cell ⟨.invitations, k'⟩).committed with
    | none => exact List.mem_singleton.1 (alone committed' seen' pending' k r seen same pending)
    | some r₀' =>
      have rel := (inv.derived _).visible committed seen
      have rel' := (inv.derived _).visible committed' seen'
      exact inv.single k k' r₀ r₀' committed committed'
        (rel.2.1.symm.trans (same.trans rel'.2.1)) (pending_of_evolves rel pending)
        (pending_of_evolves rel' pending')

/-- No version of an invitation is both accepted and revoked. -/
theorem InvitationInv.exclusive_exec (inv : InvitationInv db views) {answer : s.Answer}
    (relies : v.Relies s) (orderly : inOrderAt views db i v s = true)
    (he : db.exec i s = some (answer, db')) (k : String) :
    ∀ r ∈ (db'.cell ⟨.invitations, k⟩).versions, Invitation.Exclusive r := by
  refine exec_versions (t := AuthTable.invitations) he inv.exclusive ?_ ?_ k
  · intro k q change r stmt seen matching
    subst stmt
    rcases relies with ⟨rfl, now, rfl⟩ | pending
    · exact .inl (of_decide_eq_true orderly r seen)
    · obtain ⟨accepted, revoked⟩ := pending r matching
      cases change with
      | accept now => exact .inr revoked
      | revoke now => exact .inl accepted
  · intro r stmt
    subst stmt
    exact .inl relies.1.1

/-- The invariant is kept by a statement. -/
theorem InvitationInv.step (inv : InvitationInv db views) (hi : views[i]? = some v)
    {answer : s.Answer} (relies : v.Relies s) (orderly : inOrderAt views db i v s = true)
    (he : db.exec i s = some (answer, db')) (own : Informed db' i v')
    (apart : ∀ j w email, j ≠ i → views[j]? = some w → w.replacing = some email →
      v'.replacing ≠ some email) : InvitationInv db' (views.set i v') where
  informed j w hj := by
    rcases Workload.getElem?_set_cases hj with ⟨rfl, rfl⟩ | ⟨other, hj⟩
    · exact own
    · exact (inv.informed j w hj).other (inv.informed i v hi) other (exec_cell he) inv.derived
        fun email replacing replacing' => other (inv.apart j i w v email hj hi replacing replacing')
  absent j hj a := by
    have other : j ≠ i := by
      rintro rfl
      rw [Workload.getElem?_set_self _ hi] at hj
      cases hj
    rw [List.getElem?_set_ne other.symm] at hj
    exact ((exec_cell he a).held_of_ne other).trans (inv.absent j hj a)
  derived a := (exec_cell he a).derived (inv.derived a)
  apart j j' w w' email hj hj' h h' := by
    rcases Workload.getElem?_set_cases hj with ⟨same, rfl⟩ | ⟨other, old⟩ <;>
      rcases Workload.getElem?_set_cases hj' with ⟨same', rfl⟩ | ⟨other', old'⟩
    · exact same.trans same'.symm
    · exact absurd h (apart j' w' email other' old' h')
    · exact absurd h' (apart j w email other old h)
    · exact inv.apart j j' w w' email old old' h h'
  single k k' r r' committed committed' same pending pending' := by
    by_cases commit : s = .commit
    · subst commit
      cases he
      exact inv.single_commit hi committed committed' same pending pending'
    · rw [exec_committed he commit] at committed committed'
      exact inv.single k k' r r' committed committed' same pending pending'
  exclusive := inv.exclusive_exec relies orderly he

/-- A transaction that is over replaces nothing. -/
theorem InvitationInv.ended (inv : InvitationInv db views) (hi : views[i]? = some v)
    {answer : s.Answer} (last : s = .commit ∨ s = .rollback)
    (he : db.exec i s = some (answer, db')) (sane : v'.Sane) (clean : v'.tx = {}) :
    InvitationInv db' (views.set i v') := by
  have relies : v.Relies s := by rcases last with rfl | rfl <;> trivial
  have orderly : inOrderAt views db i v s = true := by rcases last with rfl | rfl <;> rfl
  have clear : ∀ a, (db'.cell a).held i = none := by
    rcases last with rfl | rfl
    · cases he
      exact fun a => Cell.held_commit
    · cases he
      exact fun a => Cell.held_rollback
  refine inv.step hi relies orderly he (informed_of_clear sane clean clear) ?_
  intro j w email _ _ _ replacing
  rw [InvitationView.replacing, clean] at replacing
  cases replacing

/-- Calls that replace the invitations of one address are one: their roles are the same, and the
role is locked. -/
theorem InvitationInv.apart_observe (inv : InvitationInv db views) (hi : views[i]? = some v)
    (orderly : inOrderAt views db i v s = true) {reply : Stamped s.Answer} {j : Nat}
    {w : InvitationView} {email : String} (other : j ≠ i) (hj : views[j]? = some w)
    (replacing : w.replacing = some email) :
    (v.observe s (.ok reply)).replacing ≠ some email := by
  intro replacing'
  obtain ⟨keys, listed⟩ := InvitationView.replacing_iff.1 replacing'
  rcases Tx.listed_observe listed with ⟨old, before⟩ | ⟨rfl, guarded⟩
  · exact other (inv.apart j i w v email hj hi replacing
      (InvitationView.replacing_iff.2 ⟨old, before⟩))
  · obtain ⟨-, roleName, role, held⟩ := InvitationView.protects_spec guarded
    have same : w.role = v.role :=
      of_decide_eq_true orderly (role ▸ Option.some_ne_none _) w (List.mem_of_getElem? hj) replacing
    have known := inv.informed j w hj
    obtain ⟨keys', listed'⟩ := InvitationView.replacing_iff.1 replacing
    obtain ⟨-, roleName', role', held'⟩ :=
      InvitationView.protects_spec (known.guarded _ keys' listed')
    obtain rfl : roleName' = roleName := Option.some.inj (role'.symm.trans (same.trans role))
    exact other (known.mirrors.exclusive (inv.informed i v hi).mirrors held' held)

theorem raises_of_ok {o : AuthOracle} {reply : AuthReply s}
    (h : authServe o i db s = some (.ok reply, db')) : o.raises = false := by
  unfold authServe at h
  split_ifs at h with raises
  · cases h
  · exact Bool.eq_false_iff.2 raises

/-- The invariant is kept by an answer. -/
theorem InvitationInv.serve (inv : InvitationInv db views) (hi : views[i]? = some v)
    {o : AuthOracle} {r : Except AuthExn (AuthReply s)} (allowed : v.Sane → v.Relies s)
    (orderly : o.raises = false → inOrderAt views db i v s = true)
    (h : authServe o i db s = some (r, db')) : InvitationInv db' (views.set i (v.observe s r)) := by
  have known := inv.informed i v hi
  have relies := allowed known.sane
  rcases authServe_cases h with ⟨e, rfl, rfl | ⟨rfl, rfl⟩⟩ | ⟨answer, he, rfl⟩
  · exact inv.ended (s := .rollback) hi (.inr rfl) rfl known.sane rfl
  · exact inv.ended (s := .commit) hi (.inl rfl) rfl known.sane rfl
  · by_cases commit : s = .commit
    · subst commit
      exact inv.ended hi (.inl rfl) he ⟨known.sane, known.mirrors.possible he⟩ rfl
    by_cases rollback : s = .rollback
    · subst rollback
      exact inv.ended hi (.inr rfl) he ⟨known.sane, known.mirrors.possible he⟩ rfl
    have orderly := orderly (raises_of_ok h)
    exact inv.step hi relies orderly he (known.within ⟨commit, rollback⟩ he relies)
      fun j w email other hj => inv.apart_observe hi orderly other hj

theorem invitationInv_start (h : Unused db) : InvitationInv db [] where
  informed i v hi := by simp at hi
  absent i _ a := by simp [Cell.held, h.1]
  derived a i r r' _ held := by simp [Cell.held, h.1] at held
  apart i j v w email hi := by simp at hi
  single k k' r r' committed := by
    rw [h.2 .invitations k (by decide) (by decide)] at committed
    cases committed
  exclusive k r mem := by
    rw [h.2 .invitations k (by decide) (by decide)] at mem
    cases mem

/-- A call that starts replaces nothing. -/
theorem InvitationInv.call (inv : InvitationInv db views) (role : Option String) :
    InvitationInv db (views ++ [({ role := role } : InvitationView)]) := by
  have old : ∀ {j : Nat} {w : InvitationView},
      (views ++ [({ role := role } : InvitationView)])[j]? = some w →
      views[j]? = some w ∨ views[j]? = none ∧ w = { role := role } := by
    intro j w hj
    rw [List.getElem?_append] at hj
    split_ifs at hj with bound
    · exact .inl hj
    · rw [List.getElem?_singleton] at hj
      split_ifs at hj
      cases hj
      exact .inr ⟨List.getElem?_eq_none (by omega), rfl⟩
  have replaces : ∀ {j : Nat} {w : InvitationView} {email : String},
      (views ++ [({ role := role } : InvitationView)])[j]? = some w →
      w.replacing = some email → views[j]? = some w := by
    intro j w email hj replacing
    rcases old hj with hj | ⟨-, rfl⟩
    · exact hj
    · cases replacing
  refine { inv with
    informed := fun j w hj => ?_, absent := fun j hj => ?_
    apart := fun j j' w w' email hj hj' h h' =>
      inv.apart j j' w w' email (replaces hj h) (replaces hj' h') h h' }
  · rcases old hj with hj | ⟨absent, rfl⟩
    · exact inv.informed j w hj
    · exact informed_of_clear trivial rfl (inv.absent j absent)
  · refine inv.absent j ?_
    rw [List.getElem?_eq_none_iff] at hj ⊢
    rw [List.length_append] at hj
    omega

theorem reachable_invitationInv {s : InvitationPool}
    (h : ((invitationSystem env).restrict InOrder).Reachable s) :
    InvitationInv s.shared s.views := by
  refine Workload.invariant_restrict (I := InvitationInv) (invitationWorkload_follows env)
    ?_ ?_ ?_ h
  · exact fun db unused => invitationInv_start unused
  · exact fun db views call inv => inv.call call.role
  · intro s i o thread c next r db' orderly inv hi request allowed served
    refine inv.serve (Workload.getElem?_views hi) allowed (fun quiet => ?_) served
    simpa [InOrder, inOrder, quiet, hi, request, Program.head] using orderly

/-- In the runs without the disorderly statements an address has one usable invitation, and no
invitation is both accepted and revoked. -/
theorem invitations_are_single {s : InvitationPool}
    (h : ((invitationSystem env).restrict InOrder).Reachable s) : InvitationsSound s.shared where
  single _ k k' r r' committed committed' same usable usable' :=
    (reachable_invitationInv h).single k k' r r' committed committed' same usable.1 usable'.1
  exclusive k r committed :=
    (reachable_invitationInv h).exclusive k r (Cell.mem_versions.2 (.inl committed))

end Runs

/-! ## Calls that overlap -/

/-- The roles of a new installation. -/
def twoRoles : Db authSchema := Db.load [⟨.roles, "user"⟩, ⟨.roles, "administrator"⟩]

theorem unused_twoRoles : Unused twoRoles := by
  refine ⟨Db.lock_load _, fun t k users roles => ?_⟩
  cases t with
  | users => exact absurd rfl users
  | roles => exact absurd rfl roles
  | _ => rfl

/-- Answers to the thread `i`, which draws this key and this token. -/
def answersTo (i : Nat) (id raw : String) (n : Nat) : List (Turn InvitationCall AuthOracle) :=
  List.replicate n (.answer i { now := 0, fresh := fun n => if n = 0 then id else raw })

def inviting (roleName : String) : Turn InvitationCall AuthOracle :=
  .start (.createInvitation "new@agency.gov" roleName)

/-- The second call waits for the role, and then revokes the invitation of the first. -/
def invitingTwice : List (Turn InvitationCall AuthOracle) :=
  inviting "user" :: inviting "user" :: answersTo 0 "id" "raw" 3 ++ answersTo 1 "id2" "raw2" 1 ++
    answersTo 0 "id" "raw" 4 ++ answersTo 1 "id2" "raw2" 6

theorem invitations_are_single_replaced : ∃ s : InvitationPool,
    ((invitationSystem plainAuth).restrict InOrder).Reachable s ∧ InvitationsSound s.shared ∧
    ∃ r r' : Invitation, (s.shared.cell ⟨.invitations, "id"⟩).committed = some r ∧
      (s.shared.cell ⟨.invitations, "id2"⟩).committed = some r' ∧ r.email = r'.email ∧
      r.revokedAt ≠ none ∧ r'.Pending := by
  have outcome : ((run (checked inOrder (invitationWorkload plainAuth).step) ⟨twoRoles, []⟩
      invitingTwice).bind fun s =>
        (show Option Invitation from (s.shared.cell ⟨.invitations, "id"⟩).committed).bind fun r =>
          (show Option Invitation from (s.shared.cell ⟨.invitations, "id2"⟩).committed).map
            fun r' => decide (r.email = r'.email ∧ r.revokedAt ≠ none ∧ r'.Pending)) =
              some true := by
    decide +kernel
  obtain ⟨s, hs, outcome⟩ := Option.bind_eq_some_iff.1 outcome
  obtain ⟨r, first, outcome⟩ := Option.bind_eq_some_iff.1 outcome
  obtain ⟨r', second, outcome⟩ := Option.map_eq_some_iff.1 outcome
  have initial : ((invitationSystem plainAuth).restrict InOrder).Reachable ⟨twoRoles, []⟩ :=
    .init ⟨unused_twoRoles, rfl⟩
  have reachable := initial.steps (restrict_steps_of_checked (fun _ _ good => good) hs)
  exact ⟨s, reachable, invitations_are_single reachable, r, r', first, second,
    of_decide_eq_true outcome⟩

/-- Both calls read that there is no invitation, under the locks on their roles. -/
def invitingTwoRoles : List (Turn InvitationCall AuthOracle) :=
  inviting "user" :: inviting "administrator" :: answersTo 0 "id" "raw" 4 ++
    answersTo 1 "id2" "raw2" 4 ++ answersTo 0 "id" "raw" 2 ++ answersTo 1 "id2" "raw2" 2

/-- The invitation is accepted after the second call has read it. -/
def invitingAccepted : List (Turn InvitationCall AuthOracle) :=
  inviting "user" :: answersTo 0 "id" "raw" 7 ++ inviting "user" :: answersTo 1 "id2" "raw2" 4 ++
    .start (.acceptInvitation "raw" "secret") :: answersTo 2 "new" "" 6 ++
    answersTo 1 "id2" "raw2" 3

theorem reachable_twoRoles {is : List (Turn InvitationCall AuthOracle)} {s : InvitationPool}
    (h : run (invitationWorkload plainAuth).step ⟨twoRoles, []⟩ is = some s) :
    (invitationSystem plainAuth).Reachable s := by
  have initial : (invitationSystem plainAuth).Reachable ⟨twoRoles, []⟩ :=
    .init ⟨unused_twoRoles, rfl⟩
  exact initial.steps (steps_of_run h)

theorem overlapping_invitations : (∃ s : InvitationPool,
    (invitationSystem plainAuth).Reachable s ∧ ∃ r r' : Invitation,
      (s.shared.cell ⟨.invitations, "id"⟩).committed = some r ∧
      (s.shared.cell ⟨.invitations, "id2"⟩).committed = some r' ∧ r.email = r'.email ∧
      r.Usable 0 ∧ r'.Usable 0) ∧
    ∃ s : InvitationPool, (invitationSystem plainAuth).Reachable s ∧ ∃ r : Invitation,
      (s.shared.cell ⟨.invitations, "id"⟩).committed = some r ∧ ¬ r.Exclusive := by
  constructor
  · have outcome : ((run (invitationWorkload plainAuth).step ⟨twoRoles, []⟩
        invitingTwoRoles).bind fun s =>
          (show Option Invitation from (s.shared.cell ⟨.invitations, "id"⟩).committed).bind fun r =>
            (show Option Invitation from (s.shared.cell ⟨.invitations, "id2"⟩).committed).map
              fun r' => decide (r.email = r'.email ∧ r.Usable 0 ∧ r'.Usable 0)) = some true := by
      decide +kernel
    obtain ⟨s, hs, outcome⟩ := Option.bind_eq_some_iff.1 outcome
    obtain ⟨r, first, outcome⟩ := Option.bind_eq_some_iff.1 outcome
    obtain ⟨r', second, outcome⟩ := Option.map_eq_some_iff.1 outcome
    exact ⟨s, reachable_twoRoles hs, r, r', first, second, of_decide_eq_true outcome⟩
  · have outcome : ((run (invitationWorkload plainAuth).step ⟨twoRoles, []⟩
        invitingAccepted).bind fun s =>
          (show Option Invitation from (s.shared.cell ⟨.invitations, "id"⟩).committed).map fun r =>
            decide ¬ r.Exclusive) = some true := by decide +kernel
    obtain ⟨s, hs, outcome⟩ := Option.bind_eq_some_iff.1 outcome
    obtain ⟨r, found, outcome⟩ := Option.map_eq_some_iff.1 outcome
    exact ⟨s, reachable_twoRoles hs, r, found, of_decide_eq_true outcome⟩

end DataMover
