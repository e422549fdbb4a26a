import DataMover.Auth.Service

/-!
# The flows follow their protocol

Most statements of the flows are plain: they neither issue a session or a token, nor use one up, nor
write credentials, and are always allowed (`Plainly`).  The others rely on a user or a role that was
locked before and on rows that were swept under that lock (`Beside`).
-/

namespace DataMover

open ReadCommitted Program

/-! ## Plain statements -/

/-- The update writes no credentials and uses nothing up. -/
def PlainUpdate {t : AuthTable} (q : t.Query) (change : t.Change) : Prop :=
  AuthTable.newVersion change = none ∧ AuthTable.consumable q change = false

/-- The statement issues nothing, uses nothing up and writes no credentials. -/
def Plain : AuthStmt → Prop
  | .update _ _ q change => PlainUpdate q change
  | .insert t _ => t = .users ∨ t = .history ∨ t = .invitations
  | _ => True

/-- Nothing was issued, used up or changed. -/
structure AuthView.Fresh (v : AuthView) : Prop where
  opening : v.opening = none
  issuing : v.issuing = none
  verifying : v.verifying = none
  bumped : v.bumped = false
  consuming : v.consuming = none
  consumed : v.consumed = none

/-- What was read before is still known. -/
structure AuthView.Extends (v w : AuthView) : Prop where
  call : w.call = v.call
  users : v.users ⊆ w.users
  sessions : v.sessions ⊆ w.sessions
  sane : w.Sane → v.Sane

namespace AuthView

variable {v w x : AuthView} {env : AuthEnv} {s : AuthStmt}

theorem Extends.refl (v : AuthView) : v.Extends v :=
  ⟨rfl, fun _ h => h, fun _ h => h, id⟩

theorem Extends.trans (h : v.Extends w) (h' : w.Extends x) : v.Extends x :=
  ⟨h'.call.trans h.call, fun _ m => h'.users (h.users m), fun _ m => h'.sessions (h.sessions m),
    fun sane => h.sane (h'.sane sane)⟩

theorem extends_read (versions : String → Nat) (t : AuthTable) (rows : List t.Row) :
    v.Extends (v.read versions t rows) := by
  cases t with
  | users => exact ⟨rfl, fun _ h => List.mem_append_right _ h, fun _ h => h, id⟩
  | sessions => exact ⟨rfl, fun _ h => h, fun _ h => List.mem_append_right _ h, id⟩
  | _ => exact ⟨rfl, fun _ h => h, fun _ h => h, id⟩

theorem extends_inserted {t : AuthTable} (row : t.Row) : v.Extends (v.inserted row) := by
  cases t <;> exact ⟨rfl, fun _ h => h, fun _ h => h, id⟩

theorem extends_note (s : AuthStmt) (reply : Stamped s.Answer) : v.Extends (v.note s reply) := by
  cases s with
  | select t q => exact extends_read reply.versions t reply.value
  | lock t k q => exact .refl v
  | update t k q change =>
    simp only [note]
    split_ifs
    · exact ⟨rfl, fun _ h => h, fun _ h => h, id⟩
    · exact .refl v
  | insert t row =>
    simp only [note]
    split_ifs
    · exact extends_inserted row
    · exact .refl v
  | commit => exact ⟨rfl, fun _ h => h, fun _ h => h, id⟩
  | rollback => exact ⟨rfl, fun _ h => h, fun _ h => h, id⟩

theorem extends_observe (s : AuthStmt) (answer : Except AuthExn (Stamped s.Answer)) :
    v.Extends (v.observe s answer) := by
  cases answer with
  | error e => exact ⟨rfl, fun _ h => h, fun _ h => h, id⟩
  | ok reply =>
    have h := extends_note (v := v) s reply
    exact ⟨h.call, h.users, h.sessions, And.left⟩

theorem fresh_read (h : v.Fresh) (versions : String → Nat) (t : AuthTable) (rows : List t.Row) :
    (v.read versions t rows).Fresh := by
  cases t <;> exact ⟨h.opening, h.issuing, h.verifying, h.bumped, h.consuming, h.consumed⟩

theorem Fresh.ended (h : v.Fresh) : v.ended.Fresh := ⟨rfl, rfl, rfl, rfl, rfl, h.consumed⟩

theorem Fresh.note (h : v.Fresh) (plain : Plain s) (reply : Stamped s.Answer) :
    (v.note s reply).Fresh := by
  cases s with
  | select t q => exact fresh_read h reply.versions t reply.value
  | lock t k q => exact h
  | update t k q change =>
    simp only [AuthView.note]
    split_ifs
    · refine ⟨h.opening, h.issuing, h.verifying, ?_, ?_, h.consumed⟩
      · simp [updated, h.bumped, plain.1]
      · simp [updated, h.consuming, plain.2]
    · exact h
  | insert t row =>
    simp only [AuthView.note]
    split_ifs
    · rcases plain with rfl | rfl | rfl <;> exact h
    · exact h
  | commit =>
    refine ⟨rfl, rfl, rfl, rfl, rfl, ?_⟩
    simp [AuthView.note, committed, h.consuming, h.consumed, AuthView.ended]
  | rollback => exact h.ended

theorem Fresh.observe (h : v.Fresh) (plain : Plain s) (answer : Except AuthExn (Stamped s.Answer)) :
    (v.observe s answer).Fresh := by
  cases answer with
  | error e => exact h.ended
  | ok reply =>
    have h := h.note plain reply
    exact ⟨h.opening, h.issuing, h.verifying, h.bumped, h.consuming, h.consumed⟩

theorem relies_update {t : AuthTable} {k : String} {q : t.Query} {change : t.Change}
    (plain : PlainUpdate q change) :
    v.Relies env (.update t k q change) := by
  refine ⟨fun version new => ?_, fun consumes => ?_⟩
  · rw [plain.1] at new
    cases new
  · rw [plain.2] at consumes
    cases consumes

theorem Fresh.relies (h : v.Fresh) (plain : Plain s) : v.Relies env s := by
  cases s with
  | update t k q change => exact relies_update plain
  | insert t row => rcases plain with rfl | rfl | rfl <;> trivial
  | commit =>
    intro a consuming
    rw [h.consuming] at consuming
    cases consuming
  | _ => trivial

end AuthView

/-! ## Programs of plain statements -/

section Plain

variable (env : AuthEnv) {α β : Type}

/-- All statements of the program are plain, and its result satisfies `R`. -/
def Plainly (R : AuthView → α → Prop) (v : AuthView) (p : AuthProgram α) : Prop :=
  Sat (authProtocol env)
    (fun w r => w.Fresh ∧ v.Extends w ∧ ∀ a, r = .ok a → R w a) v p

/-- The program follows the protocol, and its result satisfies `R`. -/
def Follows (R : AuthView → α → Prop) (v : AuthView) (p : AuthProgram α) : Prop :=
  Sat (authProtocol env) (fun w r => v.Extends w ∧ ∀ a, r = .ok a → R w a) v p

variable {env} {v : AuthView} {R : AuthView → α → Prop} {R' : AuthView → β → Prop}

theorem Plainly.return {a : α} (fresh : v.Fresh) (h : R v a) :
    Plainly env R v (return a : AuthProgram α) := by
  refine ⟨fresh, .refl v, ?_⟩
  rintro b ⟨⟩
  exact h

theorem Plainly.raise (fresh : v.Fresh) (e : AuthExn) :
    Plainly env R v (Flow.raise e : AuthProgram α) :=
  ⟨fresh, .refl v, nofun⟩

theorem Plainly.lift (fresh : v.Fresh) {x : Except AuthExn α} (h : ∀ a, x = .ok a → R v a) :
    Plainly env R v (Program.lift x) := by
  cases x with
  | ok a => exact .return fresh (h a rfl)
  | error e => exact .raise fresh e

theorem Plainly.mono {R₁ R₂ : AuthView → α → Prop} {p : AuthProgram α} (h : Plainly env R₁ v p)
    (weaker : ∀ w a, v.Extends w → R₁ w a → R₂ w a) : Plainly env R₂ v p :=
  Sat.mono h fun w _ hr => ⟨hr.1, hr.2.1, fun a same => weaker w a hr.2.1 (hr.2.2 a same)⟩

theorem Plainly.bind {p : AuthProgram α} {f : α → AuthProgram β} (h : Plainly env R v p)
    (ok : ∀ w a, w.Fresh → v.Extends w → R w a → Plainly env R' w (f a)) :
    Plainly env R' v (p >>= f) := by
  refine Sat.bind h (fun w a hr => ?_) fun w e hr => ⟨hr.1, hr.2.1, nofun⟩
  obtain ⟨fresh, onward, result⟩ := hr
  exact Sat.mono (ok w a fresh onward (result a rfl)) fun x _ hx =>
    ⟨hx.1, onward.trans hx.2.1, hx.2.2⟩

theorem Plainly.execute {s : AuthStmt} {f : Stamped s.Answer → AuthProgram β} (fresh : v.Fresh)
    (plain : Plain s)
    (ok : ∀ reply, (v.observe s (.ok reply)).Fresh → v.Extends (v.observe s (.ok reply)) →
      Plainly env R' (v.observe s (.ok reply)) (f reply)) :
    Plainly env R' v (Flow.execute s >>= f) := by
  have each : ∀ answer, (v.observe s answer).Fresh ∧ v.Extends (v.observe s answer) := fun answer =>
    ⟨fresh.observe plain answer, AuthView.extends_observe s answer⟩
  refine Sat.call_bind (fun _ => fresh.relies plain) (fun reply => ?_) fun e => ?_
  · obtain ⟨fresh', onward⟩ := each (.ok reply)
    exact Sat.mono (ok reply fresh' onward) fun x _ hx =>
      ⟨hx.1, onward.trans hx.2.1, hx.2.2⟩
  · obtain ⟨fresh', onward⟩ := each (.error e)
    exact ⟨fresh', onward, nofun⟩

/-- A statement whose answer is returned. -/
theorem Plainly.statement {s : AuthStmt} {R : AuthView → Stamped s.Answer → Prop} (fresh : v.Fresh)
    (plain : Plain s) (h : ∀ reply, R (v.observe s (.ok reply)) reply) :
    Plainly env R v (Flow.execute s) := by
  refine sat_call.2 ⟨fun _ => fresh.relies plain, fun answer => ?_⟩
  refine ⟨fresh.observe plain answer, AuthView.extends_observe s answer, ?_⟩
  rintro reply rfl
  exact h reply

theorem Plainly.attempt {p : AuthProgram α} (h : Plainly env R v p) :
    Plainly env (fun w r => ∀ a, r = .ok a → R w a) v (Program.attempt p) := by
  refine sat_attempt.2 (Sat.mono h fun w r hr => ⟨hr.1, hr.2.1, ?_⟩)
  rintro r' ⟨⟩
  exact hr.2.2

theorem Plainly.follows {p : AuthProgram α} (h : Plainly env R v p) : Follows env R v p :=
  Sat.mono h fun _ _ hr => hr.2

theorem Follows.return {a : α} (h : R v a) : Follows env R v (return a : AuthProgram α) := by
  refine ⟨.refl v, ?_⟩
  rintro b ⟨⟩
  exact h

theorem Follows.raise (e : AuthExn) : Follows env R v (Flow.raise e : AuthProgram α) :=
  ⟨.refl v, nofun⟩

theorem Follows.mono {R₁ R₂ : AuthView → α → Prop} {p : AuthProgram α} (h : Follows env R₁ v p)
    (weaker : ∀ w a, v.Extends w → R₁ w a → R₂ w a) : Follows env R₂ v p :=
  Sat.mono h fun w _ hr => ⟨hr.1, fun a same => weaker w a hr.1 (hr.2 a same)⟩

theorem Follows.bind {p : AuthProgram α} {f : α → AuthProgram β} (h : Follows env R v p)
    (ok : ∀ w a, v.Extends w → R w a → Follows env R' w (f a)) : Follows env R' v (p >>= f) := by
  refine Sat.bind h (fun w a hr => ?_) fun w e hr => ⟨hr.1, nofun⟩
  exact Sat.mono (ok w a hr.1 (hr.2 a rfl)) fun x _ hx => ⟨hr.1.trans hx.1, hx.2⟩

theorem Plainly.then {p : AuthProgram α} {f : α → AuthProgram β} (h : Plainly env R v p)
    (ok : ∀ w a, w.Fresh → v.Extends w → R w a → Follows env R' w (f a)) :
    Follows env R' v (p >>= f) := by
  refine Sat.bind h (fun w a hr => ?_) fun w e hr => ⟨hr.2.1, nofun⟩
  exact Sat.mono (ok w a hr.1 hr.2.1 (hr.2.2 a rfl)) fun x _ hx => ⟨hr.2.1.trans hx.1, hx.2⟩

theorem Follows.execute {s : AuthStmt} {f : Stamped s.Answer → AuthProgram β}
    (relies : v.Sane → v.Relies env s)
    (ok : ∀ reply, Follows env R' (v.observe s (.ok reply)) (f reply)) :
    Follows env R' v (Flow.execute s >>= f) := by
  have each : ∀ answer, v.Extends (v.observe s answer) := AuthView.extends_observe s
  refine Sat.call_bind relies (fun reply => ?_) fun e => ⟨each (.error e), nofun⟩
  exact Sat.mono (ok reply) fun x _ hx => ⟨(each (.ok reply)).trans hx.1, hx.2⟩

theorem Follows.plain {s : AuthStmt} {f : Stamped s.Answer → AuthProgram β} (fresh : v.Fresh)
    (plain : Plain s)
    (ok : ∀ reply, (v.observe s (.ok reply)).Fresh → v.Extends (v.observe s (.ok reply)) →
      Follows env R' (v.observe s (.ok reply)) (f reply)) :
    Follows env R' v (Flow.execute s >>= f) :=
  .execute (fun _ => fresh.relies plain) fun reply =>
    ok reply (fresh.observe plain (.ok reply)) (AuthView.extends_observe s (.ok reply))

theorem Follows.lift {x : Except AuthExn α} (h : ∀ a, x = .ok a → R v a) :
    Follows env R v (Program.lift x) := by
  cases x with
  | ok a => exact .return (h a rfl)
  | error e => exact .raise e

/-- The ORM inserts an object. -/
theorem Follows.add {t : AuthTable} {row : t.Row} {R : AuthView → Unit → Prop}
    (relies : v.Sane → v.MayInsert row)
    (h : ∀ reply : Stamped Bool, reply.value = true →
      R (v.observe (.insert t row) (.ok reply)) ()) :
    Follows env R v (Flow.add t row) := by
  refine Follows.execute relies fun added => ?_
  split_ifs with inserted
  · exact .return (h added inserted)
  · exact .raise _

/-- The last commit of a flow. -/
theorem Follows.commit {a : α} (relies : v.Sane → v.Verifies)
    (h : ∀ reply, R (v.observe .commit (.ok reply)) a) :
    Follows env R v (do let _ ← Flow.commit; return a) :=
  Follows.execute relies fun reply => .return (h reply)

theorem AuthView.verifies_of_none (h : v.consuming = none) : v.Verifies := by
  intro a consuming
  rw [h] at consuming
  cases consuming

end Plain

/-! ## Rows that are locked, written and loaded -/

section Rows

variable {env : AuthEnv} {v w : AuthView} {t : AuthTable} {k : String} {q : t.Query}

/-- The row that was found is locked. -/
def Locked (t : AuthTable) (q : t.Query) (w : AuthView) (reply : Stamped (Option t.Row)) : Prop :=
  ∀ row, reply.value = some row →
    w.tx.held ⟨t, AuthTable.key row⟩ = some row ∧ (w.Sane → AuthTable.holds q row = true)

theorem locked_lock (reply : Stamped (Option t.Row)) :
    Locked t q (v.observe (.lock t k q) (.ok reply)) reply := by
  obtain ⟨value, now, drawn, versions⟩ := reply
  rintro row ⟨⟩
  exact ⟨Tx.held_wrote, fun sane => (sane.2 row rfl).2⟩

theorem plainly_lock (fresh : v.Fresh) : Plainly env (Locked t q) v (Flow.lock t k q) :=
  Plainly.statement fresh trivial locked_lock

theorem plainly_lockFirst (rows : List t.Row) (last : Stamped Unit) (fresh : v.Fresh) :
    Plainly env (Locked t q) v (Flow.lockFirst t q rows last) := by
  induction rows generalizing v last with
  | nil => exact .return fresh nofun
  | cons row rows ih =>
    refine Plainly.bind (plainly_lock fresh) fun w locked fresh' _ hlocked => ?_
    cases found : locked.value with
    | some row => exact .return fresh' hlocked
    | none => exact ih _ fresh'

theorem plainly_forUpdate (fresh : v.Fresh) : Plainly env (Locked t q) v (Flow.forUpdate t q) :=
  Plainly.execute fresh trivial fun found fresh' _ => plainly_lockFirst found.value _ fresh'

/-- The row with a key is held in a version that `G` holds of. -/
def Holds (G : t.Row → Prop) (v : AuthView) (k : String) : Prop :=
  ∃ r : t.Row, v.tx.held ⟨t, k⟩ = some r ∧ G r

variable {G : t.Row → Prop} {change : t.Change}

theorem holds_update (change : t.Change)
    (good : ∀ r, AuthTable.holds q r = true → G (AuthTable.apply change r))
    {reply : Stamped (Option t.Row)}
    (sane : (v.observe (.update t k q change) (.ok reply)).Sane) {a : String}
    (h : Holds G v a ∨ ∃ row, reply.value = some row ∧ AuthTable.key row = a) :
    Holds G (v.observe (.update t k q change) (.ok reply)) a := by
  obtain ⟨value, now, drawn, versions⟩ := reply
  cases value with
  | none =>
    rcases h with h | ⟨row, missing, -⟩
    · exact h
    · cases missing
  | some row =>
    obtain ⟨r, -, matching, same⟩ := sane.2 row rfl
    by_cases own : a = AuthTable.key row
    · subst own
      exact ⟨row, Tx.held_wrote, same ▸ good r matching⟩
    · rcases h with ⟨r', held, hr'⟩ | ⟨row', same', key⟩
      · refine ⟨r', (Tx.held_wrote_of_ne fun e => own ?_).trans held, hr'⟩
        cases e
        rfl
      · cases same'
        exact absurd key.symm own

/-- The statements of a bulk update. -/
theorem plainly_updateEach (plain : PlainUpdate q change)
    (good : ∀ r, AuthTable.holds q r = true → G (AuthTable.apply change r))
    (rows : List t.Row) (fresh : v.Fresh) :
    Plainly env (fun w updated => w.Sane → (∀ a, Holds G v a → Holds G w a) ∧
      ∀ row ∈ updated, Holds G w (AuthTable.key row)) v
      (Flow.updateEach t q change rows) := by
  induction rows generalizing v with
  | nil => exact .return fresh fun _ => ⟨fun _ h => h, nofun⟩
  | cons row rows ih =>
    refine Plainly.execute fresh plain fun reply fresh' _ => ?_
    refine Plainly.bind (ih fresh') fun w others fresh'' onward hothers => ?_
    refine .return fresh'' fun sane => ?_
    obtain ⟨kept, updated⟩ := hothers sane
    have known := fun a h => kept a (holds_update change good (onward.sane sane) h)
    refine ⟨fun a h => known a (.inl h), fun row' mem => ?_⟩
    rcases List.mem_append.1 mem with first | rest
    · exact known _ (.inr ⟨row', Option.mem_toList.1 first, rfl⟩)
    · exact updated row' rest

theorem plainly_updateAll (plain : PlainUpdate q change)
    (good : ∀ r, AuthTable.holds q r = true → G (AuthTable.apply change r)) (fresh : v.Fresh) :
    Plainly env (fun w updated => w.Sane → ∀ row ∈ updated, Holds G w (AuthTable.key row)) v
      (Flow.updateAll t q change) := by
  refine Plainly.execute fresh trivial fun found fresh' _ => ?_
  exact (plainly_updateEach plain good found.value fresh').mono fun w _ _ h sane => (h sane).2

theorem plainly_flush (plain : PlainUpdate q change)
    (fresh : v.Fresh) : Plainly env (fun _ _ => True) v (Flow.flush t k q change) := by
  refine Plainly.execute fresh plain fun written fresh' _ => ?_
  split
  · exact .return fresh' trivial
  · exact .raise fresh' _

theorem plainly_add {row : t.Row} (plain : t = .users ∨ t = .history ∨ t = .invitations)
    (fresh : v.Fresh) :
    Plainly env (fun _ _ => True) v (Flow.add t row) := by
  refine Plainly.execute fresh plain fun added fresh' _ => ?_
  split_ifs
  · exact .return fresh' trivial
  · exact .raise fresh' _

theorem plainly_commit (fresh : v.Fresh) : Plainly env (fun _ _ => True) v Flow.commit :=
  Plainly.statement fresh trivial fun _ => trivial

theorem plainly_rollback (fresh : v.Fresh) : Plainly env (fun _ _ => True) v Flow.rollback :=
  Plainly.statement fresh trivial fun _ => trivial

/-- The end of a flow that is refused. -/
theorem Plainly.refuse {α : Type} {R : AuthView → α → Prop} (fresh : v.Fresh) (e : AuthExn) :
    Plainly env R v (do let _ ← Flow.rollback; Flow.raise e) :=
  Plainly.bind (plainly_rollback fresh) fun _ _ fresh' _ _ => .raise fresh' e

theorem Plainly.commit_raise {α : Type} {R : AuthView → α → Prop} (fresh : v.Fresh) (e : AuthExn) :
    Plainly env R v (do let _ ← Flow.commit; Flow.raise e) :=
  Plainly.bind (plainly_commit fresh) fun _ _ fresh' _ _ => .raise fresh' e

end Rows

/-! ## Loaded objects -/

section Loaded

variable {env : AuthEnv} {v w : AuthView} {known : Flow.Known} {id : String} {now : Time}

/-- The loaded objects were read, or belong to a locked row. -/
def ReadBy (w : AuthView) (known : Flow.Known) : Prop :=
  known.users ⊆ w.users ∧ known.sessions ⊆ w.sessions

theorem ReadBy.mono (h : ReadBy v known) (onward : v.Extends w) : ReadBy w known :=
  ⟨fun _ m => onward.users (h.1 m), fun _ m => onward.sessions (h.2 m)⟩

/-- The user that `db.get` returns was read. -/
def FoundUser (id : String) (w : AuthView) (found : Option User × Flow.Known × Time) : Prop :=
  ReadBy w found.2.1 ∧ ∀ user, found.1 = some user → user ∈ w.users ∧ (w.Sane → user.id = id)

theorem plainly_getUser (fresh : v.Fresh) (h : ReadBy v known) :
    Plainly env (FoundUser id) v (Flow.getUser known now id) := by
  unfold Flow.getUser
  split
  · rename_i user found
    refine .return fresh ⟨h, ?_⟩
    rintro user ⟨⟩
    refine ⟨h.1 (List.mem_of_find?_eq_some found), fun _ => ?_⟩
    simpa using List.find?_some found
  · refine Plainly.execute fresh trivial fun found fresh' onward => ?_
    split
    · rename_i user rest rows
      have mem : user ∈ (show List User from found.value) := by
        rw [rows]
        exact List.mem_cons_self
      have here : user ∈ (v.observe (.select .users (.id id : UserQuery)) (.ok found)).users :=
        List.mem_append_left _ mem
      refine .return fresh' ⟨⟨?_, (h.mono onward).2⟩, ?_⟩
      · rintro other (_ | old)
        · exact here
        · exact (h.mono onward).1 (by assumption)
      · rintro user ⟨⟩
        exact ⟨here, fun sane => of_decide_eq_true (sane.2 user mem).1⟩
    · exact .return fresh' ⟨h.mono onward, nofun⟩

/-- The session that `db.get` returns was read. -/
def FoundSession (id : String) (w : AuthView) (found : Option Flow.Loaded × Flow.Known × Time) :
    Prop :=
  ReadBy w found.2.1 ∧
    ∀ session, found.1 = some session → session ∈ w.sessions ∧ (w.Sane → session.row.id = id)

theorem plainly_getSession (fresh : v.Fresh) (h : ReadBy v known) :
    Plainly env (FoundSession id) v (Flow.getSession known now id) := by
  unfold Flow.getSession
  split
  · rename_i session found
    refine .return fresh ⟨h, ?_⟩
    rintro session ⟨⟩
    refine ⟨h.2 (List.mem_of_find?_eq_some found), fun _ => ?_⟩
    simpa using List.find?_some found
  · refine Plainly.execute fresh trivial fun found fresh' onward => ?_
    split
    · rename_i row rest rows
      have mem : row ∈ (show List SessionRow from found.value) := by
        rw [rows]
        exact List.mem_cons_self
      have here : ⟨row, found.versions row.userId⟩ ∈
          (v.observe (.select .sessions (.id id : SessionQuery)) (.ok found)).sessions :=
        List.mem_append_left _ (List.mem_map_of_mem mem)
      refine .return fresh' ⟨⟨(h.mono onward).1, ?_⟩, ?_⟩
      · rintro other (_ | old)
        · exact here
        · exact (h.mono onward).2 (by assumption)
      · rintro session ⟨⟩
        exact ⟨here, fun sane => of_decide_eq_true (sane.2 row mem).1⟩
    · exact .return fresh' ⟨h.mono onward, nofun⟩

end Loaded

/-! ## Signing in and refreshing -/

section Sessions

variable {env : AuthEnv} {v : AuthView}

theorem plainly_resetLockout {elapsed : Bool} {id : String} {attempts : Option Nat}
    {lockedUntil : Option Time} (fresh : v.Fresh) :
    Plainly env (fun _ _ => True) v
      (if elapsed then
        Flow.flush .users id .any (.loginState attempts lockedUntil : UserChange) else return) := by
  split_ifs
  · exact plainly_flush ⟨rfl, rfl⟩ fresh
  · exact .return fresh trivial

theorem plainly_commit_return {α : Type} {a : α} (fresh : v.Fresh) :
    Plainly env (fun _ _ => True) v (do let _ ← Flow.commit; return a) :=
  Plainly.bind (plainly_commit fresh) fun _ _ fresh' _ _ => .return fresh' trivial

theorem plainly_authenticateLocked (password : String) (now : Time) (user : User)
    (fresh : v.Fresh) :
    Plainly env (fun _ _ => True) v (Flow.authenticateLocked env password now user) := by
  have refused : ∀ {w : AuthView} (p : AuthProgram Unit) (e : AuthExn), w.Fresh →
      Plainly env (fun _ _ => True) w p →
      Plainly env (fun _ _ => True) w
        (do p; let _ ← Flow.commit; (Flow.raise e : AuthProgram User)) :=
    fun p e fresh h => h.bind fun _ _ fresh' _ _ => .commit_raise fresh' e
  unfold Flow.authenticateLocked
  extract_lets valid elapsed reset lockout guard
  have ends : ∀ {w : AuthView} (e : AuthExn), w.Fresh →
      Plainly env (fun _ _ => True) w
        (do reset; let _ ← Flow.commit; (Flow.raise e : AuthProgram User)) :=
    fun e fresh => refused _ e fresh (plainly_resetLockout fresh)
  split
  · exact .commit_raise fresh _
  split
  · exact refused _ _ fresh (plainly_flush ⟨rfl, rfl⟩ fresh)
  split
  · exact ends _ fresh
  split
  · split
    · refine Plainly.execute fresh ⟨rfl, rfl⟩ fun counted fresh' _ => ?_
      split
      · exact ends _ fresh'
      · split
        · exact refused _ _ fresh' (plainly_flush ⟨rfl, rfl⟩ fresh')
        · exact ends _ fresh'
    · exact ends _ fresh
  · refine Plainly.execute fresh ⟨rfl, rfl⟩ fun cleared fresh' _ => ?_
    split
    · exact ends _ fresh'
    · refine Plainly.execute fresh' trivial fun refreshed fresh'' _ => ?_
      split
      · exact .raise fresh'' _
      · split_ifs
        · exact (plainly_flush ⟨rfl, rfl⟩ fresh'').bind
            fun _ _ fresh _ _ => plainly_commit_return fresh
        · exact plainly_commit_return fresh''

theorem plainly_authenticateUser (email password : String) (fresh : v.Fresh) :
    Plainly env (fun _ _ => True) v (Flow.authenticateUser env email password) := by
  unfold Flow.authenticateUser
  split
  · exact .raise fresh _
  · refine Plainly.bind (plainly_forUpdate fresh) fun w found fresh' _ _ => ?_
    split
    · exact .commit_raise fresh' _
    · exact plainly_authenticateLocked password found.now _ fresh'

theorem follows_createSession (userId : String) (version : Nat) (fresh : v.Fresh) :
    Follows env (fun _ _ => True) v (Flow.createSession env userId version) := by
  refine Follows.plain fresh ⟨rfl, rfl⟩ fun touched fresh _ => ?_
  split
  · exact .raise _
  · refine Plainly.then (plainly_lock fresh) fun w found fresh _ locked => ?_
    split
    · exact .raise _
    · rename_i user same
      split
      · exact .raise _
      · have held : w.tx.held ⟨.users, user.id⟩ = some user := (locked user same).1
        refine Follows.bind (R := fun w _ => w.consuming = none)
          (.add (fun _ => ⟨fresh.opening, fresh.bumped, user, held, rfl⟩) ?_)
          fun w _ _ consuming => ?_
        · intro reply inserted
          simp only [AuthView.observe, AuthView.note, inserted, if_true]
          exact fresh.consuming
        · exact .commit (fun _ => AuthView.verifies_of_none consuming) fun _ => trivial

theorem follows_signIn (email password : String) (fresh : v.Fresh) :
    Follows env (fun _ _ => True) v (Flow.signIn env email password) :=
  (plainly_authenticateUser email password fresh).then fun _ user fresh' _ _ =>
    follows_createSession user.id user.securityVersion fresh'

/-- The session that tokens are granted on was read, and was not revoked then; the access token is minted
for it and for its user, as the call has read him. -/
structure Granted (w : AuthView) (granted : SessionTokens × Flow.Loaded) : Prop where
  read : granted.2 ∈ w.sessions
  live : w.Sane → granted.2.row.revokedAt = none
  minted : ∃ user ∈ w.users, granted.1.accessToken = createAccessToken user granted.2.row.id ∧
    (w.Sane → user.id = granted.2.row.userId)

variable {known : Flow.Known} {raw : String} {proofs : List String} {now : Time}

theorem Granted.mono {v w : AuthView} {granted : SessionTokens × Flow.Loaded}
    (h : Granted v granted) (onward : v.Extends w) : Granted w granted where
  read := onward.sessions h.read
  live sane := h.live (onward.sane sane)
  minted := by
    obtain ⟨user, mem, token, owner⟩ := h.minted
    exact ⟨user, onward.users mem, token, fun sane => owner (onward.sane sane)⟩

theorem plainly_exchangeSession {rotatedId : String} (fresh : v.Fresh) (h : ReadBy v known)
    (rotated : v.Sane →
      Holds (t := .sessions) (fun r : SessionRow => r.revokedAt = none) v rotatedId) :
    Plainly env Granted v (Flow.exchangeSession env known raw now rotatedId) := by
  refine Plainly.execute fresh trivial fun found fresh onward => ?_
  split
  · exact .refuse fresh _
  · rename_i session rest rows
    have mem : session ∈ (show List SessionRow from found.value) := by
      rw [rows]
      exact List.mem_cons_self
    let w₀ := v.observe (.select .sessions (.id rotatedId : SessionQuery)) (.ok found)
    have read : ⟨session, found.versions session.userId⟩ ∈ w₀.sessions :=
      List.mem_append_left _ (List.mem_map_of_mem mem)
    have live (sane : w₀.Sane) : session.revokedAt = none := by
      obtain ⟨matching, own⟩ := sane.2 session mem
      obtain ⟨r, held, live⟩ := rotated sane.1
      obtain rfl : session.id = rotatedId := of_decide_eq_true matching
      rw [own r held]
      exact live
    refine Plainly.bind (plainly_getUser fresh (h.mono onward))
      fun w loaded fresh onward foundUser => ?_
    obtain ⟨user, known', later⟩ := loaded
    cases user with
    | none => exact .raise fresh _
    | some user =>
      dsimp only
      split
      · exact .refuse fresh _
      · refine (plainly_flush ⟨rfl, rfl⟩ fresh).bind fun _ _ fresh onward₁ _ => ?_
        refine (plainly_add (.inr (.inl rfl)) fresh).bind fun _ _ fresh onward₂ _ => ?_
        refine (plainly_commit fresh).bind fun _ _ fresh onward₃ _ => ?_
        obtain ⟨readUser, owner⟩ := foundUser.2 user rfl
        have granted : Granted w (⟨createAccessToken user session.id,
            env.settings.successorRefreshToken raw,
            session.toRefreshSession.extendIdle env.settings now⟩,
            ⟨session, found.versions session.userId⟩) :=
          ⟨onward.sessions read, fun sane => live (onward.sane sane), user, readUser, rfl, owner⟩
        exact .return fresh (granted.mono ((onward₁.trans onward₂).trans onward₃))

theorem plainly_replaySession (fresh : v.Fresh) (h : ReadBy v known) :
    Plainly env Granted v (Flow.replaySession env known raw proofs) := by
  refine Plainly.execute fresh trivial fun replayed fresh onward => ?_
  split
  · exact .refuse fresh _
  · refine (plainly_getSession fresh (h.mono onward)).bind fun w loaded fresh _ found => ?_
    obtain ⟨session, known', retryNow⟩ := loaded
    cases session with
    | none => exact .raise fresh _
    | some session =>
      have read := (found.2 session rfl).1
      refine (plainly_getUser fresh found.1).bind fun w loaded fresh onward foundUser => ?_
      obtain ⟨user, known'', later⟩ := loaded
      cases user with
      | none => exact .raise fresh _
      | some user =>
        dsimp only
        split
        · rename_i current
          split
          · exact .raise fresh _
          · exact .commit_raise fresh _
          · refine (plainly_commit fresh).bind fun _ _ fresh onward' _ => ?_
            obtain ⟨readUser, owner⟩ := foundUser.2 user rfl
            have granted : Granted w (⟨createAccessToken user session.row.id,
                env.settings.successorRefreshToken raw, session.row.toRefreshSession⟩, session) :=
              ⟨onward.sessions read, fun _ => current.2.1.1, user, readUser, rfl, owner⟩
            exact .return fresh (granted.mono onward')
        · split_ifs
          · exact (plainly_flush ⟨rfl, rfl⟩ fresh).bind fun _ _ fresh _ _ => .commit_raise fresh _
          · exact .commit_raise fresh _

theorem plainly_rotateSession (fresh : v.Fresh) (h : ReadBy v known) :
    Plainly env Granted v (Flow.rotateSession env known raw proofs now) := by
  refine Plainly.bind (plainly_updateAll (t := .sessions)
    (G := fun r : SessionRow => r.revokedAt = none) ⟨rfl, rfl⟩
    (fun r matching => (of_decide_eq_true matching).2.1) fresh)
    fun w rotated fresh onward held => ?_
  split
  · rename_i row rest rows
    refine plainly_exchangeSession fresh (h.mono onward) fun sane => ?_
    refine held sane row ?_
    have same : rotated = row :: rest := rows
    rw [same]
    exact List.mem_cons_self
  · exact plainly_replaySession fresh (h.mono onward)

/-- What a context was granted on was read by the call. -/
def Flow.AuthContext.SupportedBy (w : AuthView) : Flow.AuthContext → Prop
  | .access token user session => user ∈ w.users ∧ session ∈ w.sessions ∧
    session.row.revokedAt = none ∧ session.row.userId = user.id ∧
    user.securityVersion = token.sv ∧ (w.Sane → user.id = token.sub ∧ session.row.id = token.sid)
  | .refreshed tokens session => Granted w (tokens, session)

/-- What the loop over the access tokens has found. -/
def Resolved (w : AuthView)
    (r : Option (AccessToken × User × Flow.Loaded) × Flow.Known × Time) : Prop :=
  ReadBy w r.2.1 ∧ ∀ token user session, r.1 = some (token, user, session) →
    Flow.AuthContext.SupportedBy w (.access token user session)

theorem plainly_resolveAccess (tokens : List (Option AccessToken)) (fresh : v.Fresh)
    (h : ReadBy v known) : Plainly env Resolved v (Flow.resolveAccess known now tokens) := by
  induction tokens generalizing v known now with
  | nil => exact .return fresh ⟨h, by simp⟩
  | cons token rest ih =>
    cases token with
    | none =>
      rw [Flow.resolveAccess]
      exact ih fresh h
    | some token =>
      rw [Flow.resolveAccess]
      refine (plainly_getUser fresh h).bind fun w loaded fresh _ foundUser => ?_
      obtain ⟨user, known₁, now₁⟩ := loaded
      refine (plainly_getSession fresh foundUser.1).bind
        fun w loaded fresh onward foundSession => ?_
      obtain ⟨session, known₂, now₂⟩ := loaded
      cases user with
      | none => exact ih fresh foundSession.1
      | some user =>
        cases session with
        | none => exact ih fresh foundSession.1
        | some session =>
          dsimp only
          split
          · rename_i accepted
            obtain ⟨owner, -, version, live⟩ := accepted
            obtain ⟨readUser, sub⟩ := foundUser.2 user rfl
            obtain ⟨readSession, sid⟩ := foundSession.2 session rfl
            refine .return fresh ⟨foundSession.1, ?_⟩
            rintro _ _ _ ⟨⟩
            exact ⟨onward.users readUser, readSession, live.1, owner, version,
              fun sane => ⟨sub (onward.sane sane), sid sane⟩⟩
          · exact ih fresh foundSession.1

theorem plainly_activeRefresh (values : List String) (last : Time) (fresh : v.Fresh) :
    Plainly env (fun _ _ => True) v (Flow.activeRefresh env now values last) := by
  induction values generalizing v last with
  | nil => exact .return fresh trivial
  | cons value rest ih =>
    refine Plainly.execute fresh trivial fun found fresh _ => ?_
    split_ifs
    · exact ih _ fresh
    · exact .return fresh trivial

theorem plainly_getOptionalAuth (request : Flow.Cookies) (fresh : v.Fresh) :
    Plainly env (fun w context => ∀ c, context = some c → c.SupportedBy w) v
      (Flow.getOptionalAuth env request now) := by
  have nothing : ReadBy v {} := ⟨List.nil_subset _, List.nil_subset _⟩
  have refused : ∀ w : AuthView, w.Fresh → Plainly env
      (fun w context => ∀ c, context = some c → c.SupportedBy w) w
      (return none : AuthProgram (Option Flow.AuthContext)) :=
    fun w fresh => .return fresh (by simp)
  refine (plainly_resolveAccess request.accessTokens fresh nothing).bind
    fun w resolved fresh _ hresolved => ?_
  obtain ⟨accepted, known, later⟩ := resolved
  cases accepted with
  | some accepted =>
    refine .return fresh ?_
    rintro c ⟨⟩
    exact hresolved.2 _ _ _ rfl
  | none =>
    dsimp only
    split
    · exact refused w fresh
    · exact refused w fresh
    · refine (plainly_activeRefresh _ _ fresh).bind fun w selected fresh onward _ => ?_
      refine Plainly.bind (plainly_rotateSession fresh (hresolved.1.mono onward)).attempt
        fun w outcome fresh _ granted => ?_
      split
      · refine .return fresh ?_
        rintro c ⟨⟩
        exact granted _ rfl
      · exact .raise fresh _
      · exact refused w fresh
      · exact .raise fresh _

end Sessions

/-! ## Sweeping a list -/

/-- The two views differ in what is known of one table only. -/
structure AuthView.Beside (t : AuthTable) (v w : AuthView) : Prop where
  held : ∀ a : Addr authSchema, a.1 ≠ t → w.tx.held a = v.tx.held a
  listed : ∀ t', t' ≠ t → w.tx.listed t' = v.tx.listed t'
  bumped : w.bumped = v.bumped
  opening : w.opening = v.opening
  issuing : w.issuing = v.issuing
  verifying : w.verifying = v.verifying
  consuming : w.consuming = v.consuming
  consumed : w.consumed = v.consumed
  checked : w.checked = v.checked

section Sweeping

variable {env : AuthEnv} {v w x : AuthView} {t : AuthTable} {k : String} {q q' : t.Query}
  {change : t.Change} {rows : List t.Row}

theorem AuthView.Beside.refl (v : AuthView) : v.Beside t v :=
  ⟨fun _ _ => rfl, fun _ _ => rfl, rfl, rfl, rfl, rfl, rfl, rfl, rfl⟩

theorem AuthView.Beside.trans (h : v.Beside t w) (h' : w.Beside t x) : v.Beside t x where
  held a other := (h'.held a other).trans (h.held a other)
  listed t' other := (h'.listed t' other).trans (h.listed t' other)
  bumped := h'.bumped.trans h.bumped
  opening := h'.opening.trans h.opening
  issuing := h'.issuing.trans h.issuing
  verifying := h'.verifying.trans h.verifying
  consuming := h'.consuming.trans h.consuming
  consumed := h'.consumed.trans h.consumed
  checked := h'.checked.trans h.checked

theorem AuthView.Fresh.beside (fresh : v.Fresh) (h : v.Beside t w) : w.Fresh where
  opening := h.opening.trans fresh.opening
  issuing := h.issuing.trans fresh.issuing
  verifying := h.verifying.trans fresh.verifying
  bumped := h.bumped.trans fresh.bumped
  consuming := h.consuming.trans fresh.consuming
  consumed := h.consumed.trans fresh.consumed

theorem AuthView.Beside.locks (h : v.Beside t w) (other : t ≠ .users) {userId : String}
    {version : Nat} (locks : v.Locks userId version) : w.Locks userId version := by
  obtain ⟨bumped, user, held, same⟩ := locks
  exact ⟨h.bumped.trans bumped, user, (h.held ⟨.users, userId⟩ other.symm).trans held, same⟩

theorem beside_select (other : t ≠ .users) (reply : Stamped (List t.Row)) :
    v.Beside t (v.observe (.select t q) (.ok reply)) := by
  have listed : ∀ t', t' ≠ t →
      (v.observe (.select t q) (.ok reply)).tx.listed t' = v.tx.listed t' := fun t' other =>
    Function.update_of_ne other ..
  cases t with
  | users => exact absurd rfl other
  | _ => exact ⟨fun _ _ => rfl, listed, rfl, rfl, rfl, rfl, rfl, rfl, rfl⟩

theorem beside_update (plain : PlainUpdate q change)
    (reply : Stamped (Option t.Row)) :
    v.Beside t (v.observe (.update t k q change) (.ok reply)) := by
  obtain ⟨value, now, drawn, versions⟩ := reply
  cases value with
  | none =>
    exact ⟨fun _ _ => rfl, fun t' other => Tx.listed_missed_of_ne other,
      rfl, rfl, rfl, rfl, rfl, rfl, rfl⟩
  | some row =>
    refine ⟨fun a other => Tx.held_wrote_of_ne fun e => other ?_,
      fun t' other => Tx.listed_wrote_of_ne other, ?_, rfl, rfl, rfl, ?_, rfl, rfl⟩
    · rw [e]
    · simp [AuthView.observe, AuthView.note, AuthView.updated, plain.1]
    · simp [AuthView.observe, AuthView.note, AuthView.updated, plain.2]

/-- The rows of a list that are left are among these. -/
def Left (q : t.Query) (rows : List t.Row) (v : AuthView) : Prop :=
  ∃ keys, v.tx.listed t = some (q, keys) ∧ keys ⊆ rows.map AuthTable.key

theorem left_select (protects : v.protects t q = true) (reply : Stamped (List t.Row)) :
    Left q reply.value (v.observe (.select t q) (.ok reply)) := by
  refine ⟨(show List t.Row from reply.value).map AuthTable.key, ?_, List.Subset.refl _⟩
  simp only [AuthView.observe, Tx.observe, protects, if_true, Function.update_self]

theorem Left.listed (h : Left q [] v) : v.tx.listed t = some (q, []) := by
  obtain ⟨keys, listed, none⟩ := h
  rw [listed, List.subset_nil.1 none]

/-- An update takes its row out of the list. -/
theorem Left.update {row : t.Row} (h : Left q (row :: rows) v)
    (leaves : ∀ r, AuthTable.holds q (AuthTable.apply change r) = false)
    {reply : Stamped (Option t.Row)}
    (sane : (v.observe (.update t (AuthTable.key row) q' change) (.ok reply)).Sane)
    (answered : q' = q ∨ reply.value ≠ none) :
    Left q rows (v.observe (.update t (AuthTable.key row) q' change) (.ok reply)) :=
  Tx.Left.update h v.protects leaves sane.2 answered

theorem follows_updateEach (rows : List t.Row) (plain : PlainUpdate q change)
    (leaves : ∀ r, AuthTable.holds q (AuthTable.apply change r) = false) :
    Follows env (fun w _ => v.Beside t w ∧
      ((v.Sane → Left q rows v) → w.Sane → w.tx.listed t = some (q, []))) v
      (Flow.updateEach t q change rows) := by
  induction rows generalizing v with
  | nil => exact .return ⟨.refl v, fun h sane => (h sane).listed⟩
  | cons row rows ih =>
    refine Follows.execute (fun _ => AuthView.relies_update plain) fun reply => ?_
    refine Follows.bind ih fun w _ _ swept => ?_
    refine .return ⟨(beside_update plain reply).trans swept.1, fun h => swept.2 fun sane => ?_⟩
    exact (h sane.1).update leaves sane (.inl rfl)

/-- A bulk update of a protected list leaves nothing in it. -/
theorem follows_updateAll (other : t ≠ .users)
    (plain : PlainUpdate q change)
    (leaves : ∀ r, AuthTable.holds q (AuthTable.apply change r) = false) :
    Follows env (fun w _ => v.Beside t w ∧
      ((v.Sane → v.protects t q = true) → w.Sane → w.tx.listed t = some (q, []))) v
      (Flow.updateAll t q change) := by
  refine Follows.execute (fun _ => trivial) fun found => ?_
  refine Follows.mono (follows_updateEach found.value plain leaves) fun w _ _ swept => ?_
  refine ⟨(beside_select other found).trans swept.1, fun protects => swept.2 fun sane => ?_⟩
  exact left_select (protects sane.1) found

end Sweeping

/-! ## Changing credentials -/

section Credentials

variable {env : AuthEnv} {v : AuthView} {user : User} {userId : String} {version : Nat} {now : Time}

theorem AuthView.Locks.protects_sessions (h : v.Locks userId version) :
    v.protects .sessions (.openOf userId : SessionQuery) = true := by
  obtain ⟨-, user, held, -⟩ := h
  exact congrArg Option.isSome held

theorem AuthView.Locks.protects_resets (h : v.Locks userId version) :
    v.protects .resets (.openOf userId : ResetQuery) = true := by
  obtain ⟨-, user, held, -⟩ := h
  exact congrArg Option.isSome held

theorem sessions_leave (r : SessionRow) : AuthTable.holds (t := .sessions)
    (.openOf userId : SessionQuery) (AuthTable.apply (t := .sessions) (.revokedAt now) r) = false :=
  decide_eq_false fun h => nomatch h.2

theorem resets_leave (r : PasswordReset) : AuthTable.holds (t := .resets)
    (.openOf userId : ResetQuery) (AuthTable.apply (t := .resets) now r) = false :=
  decide_eq_false fun h => nomatch h.2

theorem verifications_leave (r : RegistrationVerification) : AuthTable.holds (t := .verifications)
    (.openOf userId : VerificationQuery) (AuthTable.apply (t := .verifications) now r) = false :=
  decide_eq_false fun h => nomatch h.2

/-- After `revoke_all_sessions` for a locked user, it has no open session. -/
theorem follows_revokeAllSessions (locks : v.Sane → v.Locks userId version) :
    Follows env (fun w _ => v.Beside .sessions w ∧
      (w.Sane → w.tx.listed .sessions = some (.openOf userId, []))) v
      (Flow.revokeAllSessions userId now) :=
  (follows_updateAll (t := .sessions) nofun ⟨rfl, rfl⟩ sessions_leave).bind fun _ _ _ swept =>
    .return ⟨swept.1, swept.2 fun sane => (locks sane).protects_sessions⟩

theorem follows_resets (locks : v.Sane → v.Locks userId version) :
    Follows env (fun w _ => v.Beside .resets w ∧
      (w.Sane → w.tx.listed .resets = some (.openOf userId, []))) v
      (Flow.updateAll .resets (.openOf userId : ResetQuery) now) :=
  (follows_updateAll (t := .resets) nofun ⟨rfl, rfl⟩ resets_leave).mono fun _ _ _ swept =>
    ⟨swept.1, swept.2 fun sane => (locks sane).protects_resets⟩

/-- New credentials are written for a swept user. -/
theorem follows_setCredentials {validated : String}
    (swept : v.Sane → v.Swept user.id user.securityVersion) :
    Follows env (fun w _ => w.consuming = v.consuming) v
      (Flow.setCredentials env user validated) := by
  refine Follows.execute (fun sane => ⟨?_, nofun⟩) fun written => ?_
  · rintro version ⟨⟩
    exact ⟨_, rfl, swept sane⟩
  · split
    · refine .return ?_
      simp only [AuthView.observe, AuthView.note]
      split_ifs <;> rfl
    · exact .raise _

theorem verifies_of_ne {a : Addr authSchema} (h : v.consuming = some a)
    (other : a.1 ≠ .verifications) : v.Verifies := by
  intro a' consuming verification
  rw [h] at consuming
  cases consuming
  exact absurd verification other

theorem follows_changePassword (currentPassword newPassword : String) (fresh : v.Fresh) :
    Follows env (fun _ _ => True) v
      (Flow.changePassword env userId currentPassword newPassword) := by
  refine Plainly.then (plainly_lock fresh) fun w found fresh _ locked => ?_
  split
  · exact .raise _
  · rename_i user same
    have locks : w.Locks user.id user.securityVersion :=
      ⟨fresh.bumped, user, (locked user same).1, rfl⟩
    split
    · exact .raise _
    · refine (Follows.lift fun _ _ => rfl).bind (R := fun x _ => x = w) fun _ validated _ e => ?_
      subst e
      refine (follows_revokeAllSessions fun _ => locks).bind fun w₁ _ on₁ swept₁ => ?_
      have locks₁ := swept₁.1.locks nofun locks
      refine (follows_resets fun _ => locks₁).bind fun w₂ _ on₂ swept₂ => ?_
      have fresh := (fresh.beside swept₁.1).beside swept₂.1
      refine (follows_setCredentials fun sane => ⟨swept₂.1.locks nofun locks₁, fresh.opening,
        fresh.issuing, (swept₂.1.listed .sessions nofun).trans (swept₁.2 (on₂.sane sane)),
        swept₂.2 sane⟩).bind fun w₃ _ _ same => ?_
      exact .commit (fun _ => AuthView.verifies_of_none (same.trans fresh.consuming))
        fun _ => trivial

/-- Marking the prior resets as used leaves no open one. -/
theorem follows_markUsed (priors : List PasswordReset)
    (h : v.Sane → Left (t := .resets) (.openOf userId : ResetQuery) priors v) :
    Follows env (fun w _ => v.Beside .resets w ∧
      (w.Sane → w.tx.listed .resets = some (.openOf userId, []))) v
      (Flow.markUsed now priors) := by
  induction priors generalizing v with
  | nil => exact .return ⟨.refl v, fun sane => (h sane).listed⟩
  | cons prior rest ih =>
    refine Follows.bind (R := fun w _ => v.Beside .resets w ∧
      (w.Sane → Left (t := .resets) (.openOf userId : ResetQuery) rest w)) ?_ fun w _ _ marked =>
        (ih marked.2).mono fun x _ _ swept => ⟨marked.1.trans swept.1, swept.2⟩
    refine Follows.execute (fun _ => AuthView.relies_update ⟨rfl, rfl⟩) fun written => ?_
    split
    · rename_i row found
      refine .return ⟨beside_update (t := .resets) ⟨rfl, rfl⟩ written, fun sane => ?_⟩
      refine (h sane.1).update resets_leave sane (.inr fun missing => ?_)
      rw [missing] at found
      cases found
    · exact .raise _

theorem follows_requestPasswordReset (email : String) (fresh : v.Fresh) :
    Follows env (fun _ _ => True) v (Flow.requestPasswordReset env email) := by
  unfold Flow.requestPasswordReset
  split
  · exact .return trivial
  · refine Plainly.then (plainly_forUpdate fresh) fun w found fresh _ locked => ?_
    split
    · exact .return trivial
    · rename_i user same
      have locks : w.Locks user.id user.securityVersion :=
        ⟨fresh.bumped, user, (locked user same).1, rfl⟩
      split
      · exact .return trivial
      · refine Follows.plain fresh trivial fun priors fresh _ => ?_
        refine (follows_markUsed priors.value fun _ =>
          left_select locks.protects_resets priors).bind fun w₁ _ _ swept => ?_
        refine Follows.bind (R := fun w _ => w.consuming = none) (.add (fun sane =>
          ⟨swept.1.issuing.trans fresh.issuing, swept.1.locks nofun locks, swept.2 sane⟩) ?_) ?_
        · intro reply inserted
          simp only [AuthView.observe, AuthView.note, inserted, if_true]
          exact swept.1.consuming.trans fresh.consuming
        · exact fun w _ _ quiet => .commit (fun _ => AuthView.verifies_of_none quiet)
            fun _ => trivial

theorem consuming_update {t : AuthTable} {k : String} {q : t.Query} {change : t.Change}
    (uses : AuthTable.consumable q change = true) {reply : Stamped (Option t.Row)} {row : t.Row}
    (found : reply.value = some row) :
    (v.observe (.update t k q change) (.ok reply)).consuming = some ⟨t, k⟩ := by
  obtain ⟨value, now, drawn, versions⟩ := reply
  obtain rfl : value = some row := found
  simp [AuthView.observe, AuthView.note, AuthView.updated, uses]

theorem consumed_commit {a : Addr authSchema} (h : v.consuming = some a) (reply : Stamped Unit) :
    (v.observe .commit (.ok reply)).consumed.isSome = true := by
  simp [AuthView.observe, AuthView.note, AuthView.committed, h]

theorem opening_update {t : AuthTable} {k : String} {q : t.Query} {change : t.Change}
    (reply : Stamped (Option t.Row)) :
    (v.observe (.update t k q change) (.ok reply)).opening = v.opening := by
  simp only [AuthView.observe, AuthView.note]
  split_ifs <;> rfl

theorem issuing_update {t : AuthTable} {k : String} {q : t.Query} {change : t.Change}
    (reply : Stamped (Option t.Row)) :
    (v.observe (.update t k q change) (.ok reply)).issuing = v.issuing := by
  simp only [AuthView.observe, AuthView.note]
  split_ifs <;> rfl

theorem consuming_insert {t : AuthTable} (row : t.Row) (reply : Stamped Bool) :
    (v.observe (.insert t row) (.ok reply)).consuming = v.consuming := by
  simp only [AuthView.observe, AuthView.note]
  split_ifs
  · cases t <;> rfl
  · rfl

theorem checked_update {t : AuthTable} {k : String} {q : t.Query} {change : t.Change}
    (reply : Stamped (Option t.Row)) :
    (v.observe (.update t k q change) (.ok reply)).checked = v.checked := by
  simp only [AuthView.observe, AuthView.note]
  split_ifs <;> rfl

theorem locks_update {t : AuthTable} {k : String} {q : t.Query} (change : t.Change)
    (other : t ≠ .users) (old : AuthTable.newVersion change = none)
    (reply : Stamped (Option t.Row)) (locks : v.Locks userId version) :
    (v.observe (.update t k q change) (.ok reply)).Locks userId version := by
  obtain ⟨bumped, user, held, same⟩ := locks
  obtain ⟨value, now, drawn, versions⟩ := reply
  cases value with
  | none => exact ⟨bumped, user, held, same⟩
  | some row =>
    refine ⟨?_, user, (Tx.held_wrote_of_ne fun e => ?_).trans held, same⟩
    · simp [AuthView.observe, AuthView.note, AuthView.updated, bumped, old]
    · exact other (congrArg Sigma.fst e).symm

theorem follows_consumeReset {reset : PasswordReset} {tokenHash password : String} (fresh : v.Fresh)
    (locks : v.Locks user.id user.securityVersion)
    (presents : v.call.presents env = some (.resets, tokenHash)) :
    Follows env (fun w _ => w.consumed.isSome = true) v
      (Flow.consumeReset env user reset tokenHash password now) := by
  refine (Follows.lift fun _ _ => rfl).bind (R := fun x _ => x = v) fun _ validated _ e => ?_
  subst e
  refine Follows.execute (fun _ => ⟨nofun, fun _ => ⟨fresh.consuming, fresh.consumed, presents⟩⟩)
    fun consumed => ?_
  split
  · exact .execute (fun _ => trivial) fun _ => .raise _
  · rename_i row found
    have locks₀ := locks_update (k := reset.id) (q := (.consumable tokenHash now : ResetQuery))
      (t := .resets) now nofun rfl consumed locks
    refine (follows_resets fun _ => locks₀).bind fun w₁ _ on₁ swept₁ => ?_
    have locks₁ := swept₁.1.locks nofun locks₀
    refine (follows_revokeAllSessions fun _ => locks₁).bind fun w₂ _ on₂ swept₂ => ?_
    have consuming : w₂.consuming = some ⟨.resets, reset.id⟩ :=
      swept₂.1.consuming.trans (swept₁.1.consuming.trans (consuming_update rfl found))
    have opening : w₂.opening = none :=
      swept₂.1.opening.trans (swept₁.1.opening.trans
        ((opening_update (t := .resets) consumed).trans fresh.opening))
    have issuing : w₂.issuing = none :=
      swept₂.1.issuing.trans (swept₁.1.issuing.trans
        ((issuing_update (t := .resets) consumed).trans fresh.issuing))
    refine (follows_setCredentials fun sane => ⟨swept₂.1.locks nofun locks₁, opening, issuing,
      swept₂.2 sane, (swept₂.1.listed .resets nofun).trans (swept₁.2 (on₂.sane sane))⟩).bind
      fun w₃ _ _ same => ?_
    have using_ : w₃.consuming = some ⟨.resets, reset.id⟩ := same.trans consuming
    exact .commit (fun _ => verifies_of_ne using_ nofun) (consumed_commit using_)

theorem follows_completePasswordReset (raw password : String) (fresh : v.Fresh)
    (presents : v.call.presents env = some (.resets, env.settings.hashToken raw)) :
    Follows env (fun w _ => w.consumed.isSome = true) v
      (Flow.completePasswordReset env raw password) := by
  refine Follows.plain fresh trivial fun found fresh on₀ => ?_
  split
  · exact .raise _
  · refine Plainly.then (plainly_lock fresh) fun w locked fresh on₁ held => ?_
    split
    · exact .raise _
    · rename_i user same
      have locks : w.Locks user.id user.securityVersion :=
        ⟨fresh.bumped, user, (held user same).1, rfl⟩
      split
      · exact .raise _
      · refine Follows.plain fresh trivial fun again fresh on₂ => ?_
        have presents : w.call.presents env = some (.resets, env.settings.hashToken raw) := by
          rw [on₁.call, on₀.call]
          exact presents
        split
        · exact .raise _
        · split
          · exact .raise _
          · rename_i reset _ _ _
            unfold Flow.getUser
            split
            · change Follows env (fun w _ => w.consumed.isSome = true) _ (if _ then _ else _)
              split
              · exact .raise _
              · exact follows_consumeReset fresh locks presents
            · rename_i other
              refine Follows.bind
                (R := fun _ r => ∀ owner, r.1 = some owner → reset.userId ≠ user.id) ?_
                fun w r _ differs => ?_
              · refine Follows.plain fresh trivial fun owner fresh _ => ?_
                have differs : reset.userId ≠ user.id := fun e => by simp [e] at other
                split
                · exact .return fun _ _ => differs
                · exact .return nofun
              · obtain ⟨owner, known, now⟩ := r
                cases owner with
                | none => exact .raise _
                | some owner =>
                  dsimp only
                  rw [if_pos (.inr (differs owner rfl))]
                  exact .raise _


end Credentials

/-! ## Enrollment -/

section Enrollment

variable {env : AuthEnv} {v : AuthView} {userId raw password email : String} {now : Time}

/-- The role `user` is locked. -/
def AuthView.LocksRole (v : AuthView) : Prop := (v.tx.held ⟨.roles, "user"⟩).isSome = true

theorem invitations_leave (r : Invitation) : AuthTable.holds (t := .invitations)
    (.pendingOf email : InvitationQuery) (AuthTable.apply (t := .invitations) (.revoke now) r) =
      false := by
  let revoked := InvitationChange.apply r (.revoke now)
  exact decide_eq_false (p := revoked.email = email ∧ revoked.Pending) fun h => nomatch h.2.2

theorem follows_revokePending (canonical : String) :
    Follows env (fun w _ => v.Beside .invitations w) v (Flow.revokePending canonical now) :=
  (follows_updateAll (t := .invitations) nofun ⟨rfl, rfl⟩ invitations_leave).bind fun _ _ _ swept =>
    .return swept.1

theorem follows_issueVerification (fresh : v.Fresh) (role : v.Sane → v.LocksRole) :
    Follows env (fun _ _ => True) v (Flow.issueVerification env userId now) := by
  refine Follows.plain fresh trivial fun unused fresh _ => ?_
  refine (follows_updateEach (t := .verifications) unused.value ⟨rfl, rfl⟩
    verifications_leave).bind fun w _ _ swept => ?_
  have fresh := fresh.beside swept.1
  refine Follows.bind (R := fun w _ => w.consuming = none) (.add (fun sane => ⟨fresh.verifying,
    swept.2 (fun sane => left_select (t := .verifications)
      (q := (.openOf userId : VerificationQuery)) (role sane.1) unused) sane⟩) ?_) ?_
  · intro reply inserted
    simp only [AuthView.observe, AuthView.note, inserted, if_true]
    exact fresh.consuming
  · exact fun w _ _ quiet => .commit (fun _ => AuthView.verifies_of_none quiet) fun _ => trivial

theorem plainly_lockRole (name : String) (fresh : v.Fresh) :
    Plainly env (Locked .roles name) v (Flow.lockRole name) :=
  plainly_forUpdate fresh

theorem locksRole_of_locked {reply : Stamped (Option String)} {role : String}
    (h : Locked .roles "user" v reply) (found : reply.value = some role) (sane : v.Sane) :
    v.LocksRole := by
  obtain ⟨held, name⟩ := h role found
  obtain rfl : role = "user" := of_decide_eq_true (name sane)
  exact congrArg Option.isSome held

theorem locksRole_insert {user : User} (reply : Stamped Bool) (h : v.LocksRole) :
    (v.observe (.insert .users user) (.ok reply)).LocksRole := by
  obtain ⟨value, now, drawn, versions⟩ := reply
  cases value with
  | false => exact h
  | true =>
    refine (congrArg Option.isSome (Tx.held_wrote_of_ne fun e => ?_)).trans h
    exact nomatch (congrArg Sigma.fst e : AuthTable.roles = AuthTable.users)

theorem follows_requestSelfRegistration (fresh : v.Fresh) :
    Follows env (fun _ _ => True) v (Flow.requestSelfRegistration env email) := by
  refine Plainly.then (Plainly.lift (R := fun _ _ => True) fresh fun _ _ => trivial)
    fun w canonical fresh _ _ => ?_
  refine Plainly.then (plainly_lockRole "user" fresh) fun w role fresh _ locked => ?_
  split
  · exact .execute (fun _ => trivial) fun _ => .raise _
  · rename_i name same
    refine Follows.plain fresh trivial fun found fresh onward => ?_
    dsimp only
    have role := locksRole_of_locked locked same
    have kept : ∀ {x}, (w.observe (.select .users (.email canonical : UserQuery))
        (.ok found)).Beside .invitations x → w.LocksRole → x.LocksRole := fun beside h =>
      (congrArg Option.isSome (beside.held ⟨.roles, "user"⟩ nofun)).trans h
    split
    · split
      · exact .execute (fun _ => trivial) fun _ => .return trivial
      · refine (follows_revokePending canonical).bind fun x _ on₁ beside => ?_
        have locks : x.Sane → x.LocksRole := fun sane =>
          kept beside (role (onward.sane (on₁.sane sane)))
        refine Follows.plain (fresh.beside beside) trivial fun recent fresh _ => ?_
        split_ifs
        · exact follows_issueVerification fresh fun sane => locks sane.1
        · exact (plainly_commit_return fresh).follows
    · refine (follows_revokePending canonical).bind fun x _ on₁ beside => ?_
      have locks : x.Sane → x.LocksRole := fun sane =>
        kept beside (role (onward.sane (on₁.sane sane)))
      refine Follows.plain (fresh.beside beside) (.inl rfl) fun added fresh _ => ?_
      split_ifs
      · exact follows_issueVerification fresh fun sane => locksRole_insert added (locks sane.1)
      · exact .execute (fun _ => trivial) fun _ => .return trivial

theorem follows_validateNew :
    Follows env (fun w _ => w = v) v (Flow.validateNew env password email) := by
  unfold Flow.validateNew
  split_ifs
  · exact .lift fun _ _ => rfl
  · exact .return rfl

/-- The verification was read unused, and then its user unverified. -/
def ValidFor (env : AuthEnv) (raw : String) (w : AuthView)
    (r : RegistrationVerification × User × Time) : Prop :=
  w.Sane → w.checked = some r.1 ∧ r.1.tokenHash = env.settings.hashToken raw ∧ r.2.1.id = r.1.userId

theorem plainly_getValidRegistrationVerification (fresh : v.Fresh) (clear : v.tx = {}) :
    Plainly env (ValidFor env raw) v (Flow.getValidRegistrationVerification env raw) := by
  refine Plainly.execute fresh trivial fun found fresh _ => ?_
  obtain ⟨value, now, drawn, versions⟩ := found
  split
  · exact .raise fresh _
  · rename_i verification rest rows
    obtain rfl : value = verification :: rest := rows
    split
    · exact .raise fresh _
    · rename_i usable
      refine Plainly.execute fresh trivial fun owner fresh _ => ?_
      obtain ⟨users, now', drawn', versions'⟩ := owner
      split
      · exact .raise fresh _
      · rename_i user others found
        obtain rfl : users = user :: others := found
        split
        · exact .raise fresh _
        · rename_i unverified
          refine .return fresh fun sane => ?_
          have own : user.id = verification.userId :=
            of_decide_eq_true (sane.2 user List.mem_cons_self).1
          have hash : verification.tokenHash = env.settings.hashToken raw :=
            of_decide_eq_true (sane.1.2 verification List.mem_cons_self).1
          refine ⟨?_, hash, own⟩
          simp only [not_or, Option.isSome_iff_ne_none, ne_eq, not_not] at usable unverified
          simp [AuthView.observe, AuthView.note, AuthView.read, clear, usable.1, unverified.2, own]

/-- The user whose row is written becomes verified. -/
theorem follows_flushVerified {hash : Option String} :
    Follows env (fun w _ => w.consuming = v.consuming ∧ w.checked = v.checked ∧ (w.Sane →
      ∃ user : User, w.tx.held ⟨.users, userId⟩ = some user ∧ user.emailVerifiedAt ≠ none)) v
      (Flow.flush .users userId .any (.verified hash now : UserChange)) := by
  refine Follows.execute (fun _ => AuthView.relies_update ⟨rfl, rfl⟩) fun written => ?_
  split
  · rename_i row found
    have beside : v.Beside .users (v.observe (.update .users userId (.any : UserQuery)
      (.verified hash now : UserChange)) (.ok written)) :=
      beside_update (t := .users) ⟨rfl, rfl⟩ written
    refine .return ⟨beside.consuming, beside.checked, fun sane => ?_⟩
    obtain ⟨r, key, -, same⟩ := sane.2 row found
    have own : AuthTable.key (t := .users) row = userId := by
      rw [same, ← key]
      exact authSchema.key_apply (t := AuthTable.users) (.verified hash now : UserChange) r
    have verified := holds_update (t := .users) (q := (.any : UserQuery))
      (.verified hash now : UserChange) (G := fun user : User => user.emailVerifiedAt ≠ none)
      (fun _ _ => Option.some_ne_none now) sane (.inr ⟨row, found, rfl⟩)
    rwa [own] at verified
  · exact .raise _

theorem follows_completeSelfRegistration (fresh : v.Fresh) (clear : v.tx = {})
    (presents : v.call.presents env = some (.verifications, env.settings.hashToken raw)) :
    Follows env (fun w _ => w.consumed.isSome = true) v
      (Flow.completeSelfRegistration env raw password) := by
  refine Plainly.then (plainly_getValidRegistrationVerification fresh clear)
    fun w valid fresh onward validated => ?_
  obtain ⟨verification, user, now⟩ := valid
  refine follows_validateNew.bind fun w' hash _ e => ?_
  subst e
  refine Follows.execute (fun sane => ⟨nofun, fun _ => ⟨fresh.consuming, fresh.consumed, ?_⟩⟩)
    fun consumed => ?_
  · obtain ⟨checked, token, -⟩ := validated sane
    refine ⟨verification, checked, rfl, ?_⟩
    rw [onward.call, presents, token]
  · split
    · exact .execute (fun _ => trivial) fun _ => .raise _
    · rename_i row found
      refine (follows_updateAll (t := .verifications) nofun ⟨rfl, rfl⟩ verifications_leave).bind
        fun x _ on₁ swept => ?_
      have consuming : x.consuming = some ⟨.verifications, verification.id⟩ :=
        swept.1.consuming.trans (consuming_update rfl found)
      have checked : x.checked = w'.checked :=
        swept.1.checked.trans (checked_update (t := .verifications) consumed)
      refine follows_flushVerified.bind fun y _ on₂ flushed => ?_
      have using_ := flushed.1.trans consuming
      refine .commit (fun sane a e _ => ?_) fun reply => ?_
      · obtain ⟨known, -, own⟩ := validated (on₁.sane (on₂.sane sane)).1
        rw [using_] at e
        cases e
        refine ⟨verification, flushed.2.1.trans (checked.trans known), rfl, ?_⟩
        rw [← own]
        exact flushed.2.2 sane
      · exact consumed_commit using_ reply

/-! ### Invitations -/

theorem plainly_markRevoked (priors : List Invitation) (fresh : v.Fresh) :
    Plainly env (fun _ _ => True) v (Flow.markRevoked now priors) := by
  induction priors generalizing v with
  | nil => exact .return fresh trivial
  | cons prior rest ih =>
    exact (plainly_flush (t := .invitations) ⟨rfl, rfl⟩ fresh).bind fun _ _ fresh _ _ => ih fresh

theorem plainly_createInvitation (roleName : String) (fresh : v.Fresh) :
    Plainly env (fun _ _ => True) v (Flow.createInvitation env email roleName) := by
  refine Plainly.bind (Plainly.lift (R := fun _ _ => True) fresh fun _ _ => trivial)
    fun w canonical fresh _ _ => ?_
  refine (plainly_lockRole roleName fresh).bind fun w role fresh _ _ => ?_
  refine Plainly.execute fresh trivial fun account fresh _ => ?_
  split
  · exact .refuse fresh _
  · split
    · exact .refuse fresh _
    · refine Plainly.execute fresh trivial fun priors fresh _ => ?_
      refine (plainly_markRevoked priors.value fresh).bind fun w _ fresh _ _ => ?_
      refine (plainly_add (t := .invitations) (.inr (.inr rfl)) fresh).bind fun w _ fresh _ _ => ?_
      exact plainly_commit_return fresh

theorem plainly_getValidInvitation (fresh : v.Fresh) :
    Plainly env (fun _ _ => True) v (Flow.getValidInvitation env raw) := by
  refine Plainly.execute fresh trivial fun found fresh _ => ?_
  split
  · exact .raise fresh _
  · split
    · exact .raise fresh _
    · exact .return fresh trivial

/-- The account of an accepted invitation. -/
theorem follows_createAccount {user : User} {id : String}
    (using_ : v.consuming = some ⟨.invitations, id⟩) :
    Follows env (fun w _ => w.consumed.isSome = true) v (do
      let added ← Flow.insert .users user
      if ¬ added.value then
        let _ ← Flow.rollback
        Flow.raise Flow.invitationInvalid
      else
        let _ ← Flow.commit
        return ()) := by
  refine Follows.execute (fun _ => trivial) fun added => ?_
  split
  · exact .execute (fun _ => trivial) fun _ => .raise _
  · have using_ := (consuming_insert (t := .users) user added).trans using_
    exact .commit (fun _ => verifies_of_ne using_ nofun) (consumed_commit using_)

theorem follows_acceptInvitation (fresh : v.Fresh)
    (presents : v.call.presents env = some (.invitations, env.settings.hashToken raw)) :
    Follows env (fun w _ => w.consumed.isSome = true) v
      (Flow.acceptInvitation env raw password) := by
  refine Plainly.then (plainly_getValidInvitation fresh) fun w invitation fresh on₀ _ => ?_
  refine Follows.plain fresh trivial fun account fresh on₁ => ?_
  split
  · exact .raise _
  · refine follows_validateNew.bind fun _ hash _ e => ?_
    subst e
    refine Follows.plain fresh trivial fun role fresh on₂ => ?_
    split
    · exact .raise _
    · have same := ((on₀.trans on₁).trans on₂).call
      have presents := (congrArg (AuthCall.presents env) same).trans presents
      refine Follows.execute
        (fun _ => ⟨nofun, fun _ => ⟨fresh.consuming, fresh.consumed, presents⟩⟩) fun consumed => ?_
      split
      · exact .execute (fun _ => trivial) fun _ => .raise _
      · rename_i row found
        exact follows_createAccount (consuming_update (t := .invitations) rfl found)

theorem plainly_revokeInvitation (id : String) (fresh : v.Fresh) :
    Plainly env (fun _ _ => True) v (Flow.revokeInvitation id now) := by
  refine Plainly.execute fresh ⟨rfl, rfl⟩ fun revoked fresh _ => ?_
  split
  · exact .refuse fresh _
  · exact plainly_commit_return fresh

theorem plainly_revokeSession (session : SessionRow) (fresh : v.Fresh) :
    Plainly env (fun _ _ => True) v (Flow.revokeSession session now) :=
  Plainly.execute fresh ⟨rfl, rfl⟩ fun _ fresh _ => plainly_commit_return fresh

end Enrollment

/-! ## Calls -/

section Calls

variable {env : AuthEnv} {v w : AuthView}

/-- What a call has achieved when it returns: the token that it presents was used up, and the
context that it grants is supported by what it has read. -/
structure Achieved (env : AuthEnv) (w : AuthView) (outcome : AuthOutcome) : Prop where
  used : ∀ token, w.call.presents env = some token → w.consumed.isSome = true
  granted : ∀ c, outcome = .context (some c) → c.SupportedBy w

theorem Flow.AuthContext.SupportedBy.mono {c : Flow.AuthContext} (h : c.SupportedBy v)
    (onward : v.Extends w) : c.SupportedBy w := by
  cases c with
  | access token user session =>
    obtain ⟨readUser, readSession, unrevoked, owner, version, named⟩ := h
    exact ⟨onward.users readUser, onward.sessions readSession, unrevoked, owner, version,
      fun sane => named (onward.sane sane)⟩
  | refreshed tokens session => exact Granted.mono h onward

theorem Achieved.rollback {outcome : AuthOutcome} (h : Achieved env w outcome)
    (answer : Except AuthExn (Stamped Unit)) :
    Achieved env (w.observe .rollback answer) outcome := by
  refine ⟨fun token => ?_, fun c same =>
    (h.granted c same).mono (AuthView.extends_observe .rollback answer)⟩
  cases answer <;> exact h.used token

/-- Closing the database session changes nothing that was achieved. -/
theorem follows_closing {p : AuthProgram AuthOutcome} (h : Follows env (Achieved env) v p) :
    Follows env (Achieved env) v (Flow.closing p) := by
  have attempted : Follows env (fun w outcome => ∀ a, outcome = .ok a → Achieved env w a) v
      (Program.attempt p) := by
    refine sat_attempt.2 (Sat.mono h fun w r hr => ⟨hr.1, ?_⟩)
    rintro outcome ⟨⟩
    exact hr.2
  refine attempted.bind fun w outcome _ achieved => ?_
  have rolled : Follows env (fun w _ => ∀ a, outcome = .ok a → Achieved env w a) w
      (Program.attempt Flow.rollback) := by
    refine sat_attempt.2 (sat_call.2 ⟨fun _ => trivial, fun answer => ?_⟩)
    exact ⟨AuthView.extends_observe .rollback answer,
      fun _ _ a same => (achieved a same).rollback answer⟩
  exact rolled.bind fun _ _ _ achieved => .lift achieved

theorem follows_done {p : AuthProgram Unit}
    (h : Follows env (fun w _ => ∀ token, w.call.presents env = some token →
      w.consumed.isSome = true) v p) :
    Follows env (Achieved env) v (do p; return .done) := by
  refine h.bind fun w _ _ used => .return ⟨used, ?_⟩
  rintro c ⟨⟩

/-- A call that presents no token. -/
theorem unpresented (none : v.call.presents env = .none) (onward : v.Extends w)
    (token : AuthTable × String) (presents : w.call.presents env = some token) :
    w.consumed.isSome = true := by
  rw [onward.call, none] at presents
  cases presents

theorem follows_unpresented {p : AuthProgram Unit} (none : v.call.presents env = .none)
    (h : Follows env (fun _ _ => True) v p) : Follows env (Achieved env) v (do p; return .done) :=
  follows_done (h.mono fun _ _ onward _ => unpresented none onward)

theorem follows_presented {p : AuthProgram Unit}
    (h : Follows env (fun w _ => w.consumed.isSome = true) v p) :
    Follows env (Achieved env) v (do p; return .done) :=
  follows_done (h.mono fun _ _ _ used _ _ => used)

/-- Every call follows the protocol, and has achieved what it returns. -/
theorem program_follows (env : AuthEnv) (call : AuthCall) :
    Follows env (Achieved env) { call } (call.program env) := by
  have fresh : AuthView.Fresh { call } := ⟨rfl, rfl, rfl, rfl, rfl, rfl⟩
  refine follows_closing ?_
  cases call with
  | signIn email password =>
    refine (follows_signIn email password fresh).bind fun w tokens onward _ => ?_
    refine .return ⟨unpresented rfl onward, ?_⟩
    rintro c ⟨⟩
  | rotateSession raw proofs now =>
    have nothing : ReadBy { call := .rotateSession raw proofs now } {} :=
      ⟨List.nil_subset _, List.nil_subset _⟩
    refine (plainly_rotateSession fresh nothing).follows.bind fun w rotated onward granted => ?_
    refine .return ⟨unpresented rfl onward, ?_⟩
    rintro c ⟨⟩
    exact granted
  | getOptionalAuth cookies now =>
    refine (plainly_getOptionalAuth cookies fresh).follows.bind fun w context onward supported => ?_
    refine .return ⟨unpresented rfl onward, ?_⟩
    rintro c ⟨⟩
    exact supported c rfl
  | changePassword userId currentPassword newPassword =>
    exact follows_unpresented rfl (follows_changePassword currentPassword newPassword fresh)
  | requestPasswordReset email =>
    exact follows_unpresented rfl (follows_requestPasswordReset email fresh)
  | completePasswordReset raw password =>
    exact follows_presented (follows_completePasswordReset raw password fresh rfl)
  | requestSelfRegistration email =>
    exact follows_unpresented rfl (follows_requestSelfRegistration fresh)
  | completeSelfRegistration raw password =>
    exact follows_presented (follows_completeSelfRegistration fresh rfl rfl)
  | createInvitation email roleName =>
    exact follows_unpresented rfl (plainly_createInvitation roleName fresh).follows
  | acceptInvitation raw password =>
    exact follows_presented (follows_acceptInvitation fresh rfl)
  | revokeInvitation id now =>
    exact follows_unpresented rfl (plainly_revokeInvitation id fresh).follows
  | revokeSession session now =>
    exact follows_unpresented rfl (plainly_revokeSession session fresh).follows

theorem authWorkload_follows (env : AuthEnv) : (authWorkload env).Follows := fun call =>
  Sat.mono (program_follows env call) fun _ _ _ => trivial

end Calls

end DataMover
