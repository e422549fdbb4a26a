import DataMover.Auth.Flows

/-!
# The lockout after failed logins

`authenticate_user` on the row of one user, call by call, with the object of the ORM next to the stored
row: an assignment to the object reaches the row when the transaction commits, and the bulk updates in
between see the row without it.  A lockout that is over is reset on the object only, so the first call
after it still finds the fifth failure in the row and locks the user out once more.
-/

namespace DataMover

namespace Lockout

open DataMover.Flow

/-! ## Objects -/

/-- An object of the ORM: the columns as they were loaded, and as they are now. -/
structure Tracked where
  loaded : User
  current : User

/-- `db.refresh(user)`, or the object of a `SELECT`. -/
def Tracked.load (stored : User) : Tracked := ⟨stored, stored⟩

/-- The commit writes the columns whose value has changed since they were loaded. -/
def Tracked.flush (user : Tracked) (stored : User) : User :=
  { stored with
    failedLoginAttempts :=
      if user.current.failedLoginAttempts = user.loaded.failedLoginAttempts then
        stored.failedLoginAttempts
      else user.current.failedLoginAttempts
    lockedUntil :=
      if user.current.lockedUntil = user.loaded.lockedUntil then stored.lockedUntil
      else user.current.lockedUntil
    passwordHash :=
      if user.current.passwordHash = user.loaded.passwordHash then stored.passwordHash
      else user.current.passwordHash }

/-! ## One call -/

/-- The database: `returning` for PostgreSQL, where `scalar_returning` uses `RETURNING`, and not for
SQLite, where it reads the object again. -/
structure Dialect where
  returning : Bool

/-- The object after a bulk update that has written the row. -/
def Dialect.afterUpdate (dialect : Dialect) (user : Tracked) (stored : User) : Tracked :=
  if dialect.returning then user else .load stored

/-- The where clause of the two bulk updates. -/
def guard (user : Tracked) (stored : User) : Bool :=
  UserQuery.holds stored (.credentials user.current.passwordHash user.current.securityVersion)

def locked : Except AuthExn User := .error (.accountLocked genericAuthFailure)

def rejected : Except AuthExn User := .error (.authentication genericAuthFailure)

variable (env : AuthEnv) (dialect : Dialect)

/-- The object after the check of the lock: a lock that is over is reset. -/
def afterLock (stored : User) : Tracked :=
  if stored.lockedUntil.isSome then
    { Tracked.load stored with current := { stored with failedLoginAttempts := 0, lockedUntil := none } }
  else .load stored

/-- A call with a wrong password, or for a user that may not sign in. -/
def fail (now : Time) (user : Tracked) (stored : User) : Except AuthExn User × User :=
  if user.current.isActive ∧ user.current.emailVerifiedAt.isSome then
    if guard user stored then
      let counted := UserChange.apply stored .countFailure
      let user := dialect.afterUpdate user counted
      if loginLockoutAttempts ≤ counted.failedLoginAttempts then
        let user := { user with
          current := { user.current with lockedUntil := some (now + loginLockoutDuration) } }
        (locked, user.flush counted)
      else (rejected, user.flush counted)
    else (locked, user.flush stored)
  else (rejected, user.flush stored)

/-- A call with the right password. -/
def succeed (password : String) (user : Tracked) (stored : User) : Except AuthExn User × User :=
  if guard user stored then
    let cleared := UserChange.apply stored .clearFailures
    let user := Tracked.load cleared
    let user := if user.current.passwordHash.any env.needsRehash then
        { user with current := { user.current with passwordHash := some (env.hash password) } }
      else user
    (.ok user.current, user.flush cleared)
  else (locked, user.flush stored)

/-- `authenticate_user` with an address of the user, under the lock of its row. -/
def authenticateUser (password : String) (now : Time) (stored : User) : Except AuthExn User × User :=
  let valid := env.verify password stored.passwordHash
  if stored.lockedUntil.any fun until_ => decide (now < until_) then (locked, stored)
  else
    let user := afterLock stored
    if loginLockoutAttempts ≤ user.current.failedLoginAttempts then
      let user := { user with
        current := { user.current with lockedUntil := some (now + loginLockoutDuration) } }
      (locked, user.flush stored)
    else if valid ∧ user.current.status = .pending ∧ user.current.emailVerifiedAt.isSome then
      (rejected, user.flush stored)
    else if ¬ valid ∨ ¬ user.current.isActive ∨ user.current.emailVerifiedAt = none then
      fail dialect now user stored
    else succeed env password user stored

/-! ## Many calls -/

/-- A call: its time and its password. -/
structure Attempt where
  now : Time
  password : String

/-- The outcome of a call and the row after it. -/
def step (stored : User) (a : Attempt) : Except AuthExn User × User :=
  authenticateUser env dialect a.password a.now stored

/-- The row after some calls. -/
def after (stored : User) (attempts : List Attempt) : User :=
  attempts.foldl (fun stored a => (step env dialect stored a).2) stored

/-- The password of a call is the one of the row. -/
def Right (stored : User) (a : Attempt) : Prop := env.verify a.password stored.passwordHash = true

/-- The lock of the row is over when the call is made. -/
def Over (stored : User) (a : Attempt) : Prop := ∃ until_, stored.lockedUntil = some until_ ∧ until_ ≤ a.now

/-- The call is judged as if nothing had been counted. -/
def JudgedAfresh (stored : User) (a : Attempt) : Prop :=
  let out := step env dialect stored a
  out.2.lockedUntil = none ∧
    (Right env stored a → out.1.isOk = true ∧ out.2.failedLoginAttempts = 0) ∧
    (¬ Right env stored a → out.1 = rejected ∧ out.2.failedLoginAttempts = 1)

/-- A lockout that is exact and temporary, over a sequence of calls. -/
structure LocksOut (stored : User) (attempts : List Attempt) : Prop where
  bounded : ∀ before, before <+: attempts →
    (after env dialect stored before).failedLoginAttempts ≤ loginLockoutAttempts
  locks : ∀ before a between b later, attempts = before ++ a :: (between ++ b :: later) →
    (after env dialect stored before).failedLoginAttempts < loginLockoutAttempts ∨
      (after env dialect stored before).lockedUntil = none →
    (after env dialect stored (before ++ [a])).failedLoginAttempts = loginLockoutAttempts →
    (∀ c ∈ between ++ [b], c.now < a.now + loginLockoutDuration) →
    step env dialect (after env dialect stored (before ++ a :: between)) b =
      (locked, after env dialect stored (before ++ [a]))
  resets : ∀ before a later, attempts = before ++ a :: later →
    (step env dialect (after env dialect stored before) a).1.isOk = true →
    (after env dialect stored (before ++ [a])).failedLoginAttempts = 0
  expires : ∀ before a later, attempts = before ++ a :: later →
    Over (after env dialect stored before) a →
    JudgedAfresh env dialect (after env dialect stored before) a

/-- The call finds a lock that is over, and a count that the reset of the object does not reach. -/
def Stale (stored : User) (a : Attempt) : Prop :=
  Over stored a ∧ (loginLockoutAttempts ≤ stored.failedLoginAttempts ∨
    ¬ Right env stored a ∧ stored.failedLoginAttempts ≠ 0)

/-! ## What one call does -/

/-- The user may sign in, and the counter is in range. -/
structure Healthy (stored : User) : Prop where
  active : stored.status = .active
  verified : stored.emailVerifiedAt.isSome = true
  bounded : stored.failedLoginAttempts ≤ loginLockoutAttempts

section Calls

variable {env : AuthEnv} {dialect : Dialect} {stored : User} {a : Attempt}

/-- While the lock runs nothing is judged. -/
theorem step_locked {until_ : Time} (lock : stored.lockedUntil = some until_) (runs : a.now < until_) :
    step env dialect stored a = (locked, stored) := by
  unfold step authenticateUser
  rw [lock]
  exact if_pos (decide_eq_true runs)

/-- A full counter without a lock starts one. -/
theorem step_full (lock : stored.lockedUntil = none)
    (full : loginLockoutAttempts ≤ stored.failedLoginAttempts) :
    step env dialect stored a =
      (locked, { stored with lockedUntil := some (a.now + loginLockoutDuration) }) := by
  simp [step, authenticateUser, afterLock, Tracked.load, Tracked.flush, lock, full]

/-- A wrong password is counted, and the fifth one locks. -/
theorem step_wrong (healthy : Healthy stored) (lock : stored.lockedUntil = none)
    (room : stored.failedLoginAttempts < loginLockoutAttempts) (wrong : ¬ Right env stored a) :
    step env dialect stored a =
      if loginLockoutAttempts ≤ stored.failedLoginAttempts + 1 then
        (locked, { stored with
          failedLoginAttempts := stored.failedLoginAttempts + 1
          lockedUntil := some (a.now + loginLockoutDuration) })
      else (rejected, { stored with failedLoginAttempts := stored.failedLoginAttempts + 1 }) := by
  have not_full := not_le.2 room
  rw [Right, Bool.not_eq_true] at wrong
  cases dialect with
  | mk returning =>
    cases returning <;>
      simp [step, authenticateUser, afterLock, Tracked.load, Tracked.flush, fail, guard,
        UserQuery.holds, UserChange.apply, Dialect.afterUpdate, User.isActive, lock, not_full, room,
        wrong, healthy.active, healthy.verified]

/-- A sign-in clears the row, and may write another hash. -/
theorem succeed_of_guard {password : String} {user : Tracked} (h : guard user stored = true) :
    ∃ result hash, succeed env password user stored = (.ok result,
      { stored with failedLoginAttempts := 0, lockedUntil := none, passwordHash := hash }) := by
  unfold succeed
  rw [if_pos h]
  dsimp only
  split_ifs with rehash
  · by_cases same : some (env.hash password) = stored.passwordHash
    · refine ⟨_, stored.passwordHash, Prod.ext rfl ?_⟩
      simp [Tracked.flush, Tracked.load, UserChange.apply, same]
    · refine ⟨_, some (env.hash password), Prod.ext rfl ?_⟩
      simp [Tracked.flush, Tracked.load, UserChange.apply, same]
  · refine ⟨_, stored.passwordHash, Prod.ext rfl ?_⟩
    simp [Tracked.flush, Tracked.load, UserChange.apply]

/-- The right password, when no lock runs and the row has room. -/
theorem step_right (healthy : Healthy stored)
    (ended : ∀ until_, stored.lockedUntil = some until_ → until_ ≤ a.now)
    (room : stored.failedLoginAttempts < loginLockoutAttempts) (right : Right env stored a) :
    ∃ result hash, step env dialect stored a = (.ok result,
      { stored with failedLoginAttempts := 0, lockedUntil := none, passwordHash := hash }) := by
  have not_full := not_le.2 room
  have not_zero : ¬ loginLockoutAttempts ≤ 0 := by decide
  have free : (stored.lockedUntil.any fun until_ => decide (a.now < until_)) = false := by
    cases lock : stored.lockedUntil with
    | none => rfl
    | some until_ => exact decide_eq_false (not_lt.2 (ended until_ lock))
  have signs_in : step env dialect stored a = succeed env a.password (afterLock stored) stored := by
    have verified : stored.emailVerifiedAt ≠ none := Option.isSome_iff_ne_none.1 healthy.verified
    rw [Right] at right
    cases lock : stored.lockedUntil <;>
      simp [step, authenticateUser, afterLock, Tracked.load, User.isActive, lock ▸ free, lock,
        not_full, not_zero, right, healthy.active, verified]
  rw [signs_in]
  refine succeed_of_guard ?_
  cases lock : stored.lockedUntil <;>
    simp [guard, UserQuery.holds, afterLock, Tracked.load, lock, room]

/-- The first call after a lockout whose fifth failure is still counted in the row. -/
theorem step_over_full (healthy : Healthy stored) (ended : Over stored a)
    (full : loginLockoutAttempts ≤ stored.failedLoginAttempts) :
    step env dialect stored a =
      (locked, { stored with failedLoginAttempts := 0, lockedUntil := none }) := by
  obtain ⟨until_, lock, ended⟩ := ended
  have not_room := not_lt.2 full
  have not_zero : ¬ loginLockoutAttempts ≤ 0 := by decide
  have positive : 0 ≠ stored.failedLoginAttempts := by
    rintro same
    rw [← same] at full
    exact not_zero full
  by_cases right : env.verify a.password stored.passwordHash = true <;>
    simp [step, authenticateUser, afterLock, Tracked.load, Tracked.flush, fail, succeed, guard,
      UserQuery.holds, User.isActive, lock, not_lt.2 ended, not_zero, not_room, right, positive,
      healthy.active, healthy.verified]

/-- A wrong password after a lockout, when the row has room. -/
theorem step_over_wrong (healthy : Healthy stored) (ended : Over stored a)
    (room : stored.failedLoginAttempts < loginLockoutAttempts) (wrong : ¬ Right env stored a) :
    step env dialect stored a =
      let count := if dialect.returning ∧ stored.failedLoginAttempts ≠ 0 then 0
        else stored.failedLoginAttempts + 1
      if loginLockoutAttempts ≤ stored.failedLoginAttempts + 1 then
        (locked, { stored with
          failedLoginAttempts := count, lockedUntil := some (a.now + loginLockoutDuration) })
      else (rejected, { stored with failedLoginAttempts := count, lockedUntil := none }) := by
  obtain ⟨until_, lock, ended⟩ := ended
  have not_zero : ¬ loginLockoutAttempts ≤ 0 := by decide
  have new : a.now + loginLockoutDuration ≠ until_ :=
    (lt_of_le_of_lt ended (lt_add_of_pos_right a.now (by decide))).ne'
  rw [Right, Bool.not_eq_true] at wrong
  cases dialect with
  | mk returning =>
    cases returning <;>
      simp [step, authenticateUser, afterLock, Tracked.load, Tracked.flush, fail, guard,
        UserQuery.holds, UserChange.apply, Dialect.afterUpdate, User.isActive, lock, not_lt.2 ended,
        not_zero, room, wrong, new, healthy.active, healthy.verified, eq_comm (a := 0)]

@[simp] theorem isOk_locked : locked.isOk = false := rfl

@[simp] theorem isOk_rejected : rejected.isOk = false := rfl

/-- What one call keeps, and how it counts: a fifth failure locks, a success clears. -/
structure Kept (env : AuthEnv) (dialect : Dialect) (stored : User) (a : Attempt) : Prop where
  healthy : Healthy (step env dialect stored a).2
  locks : stored.failedLoginAttempts < loginLockoutAttempts ∨ stored.lockedUntil = none →
    (step env dialect stored a).2.failedLoginAttempts = loginLockoutAttempts →
    (step env dialect stored a).2.lockedUntil = some (a.now + loginLockoutDuration)
  resets : (step env dialect stored a).1.isOk = true →
    (step env dialect stored a).2.failedLoginAttempts = 0

theorem kept_wrong (healthy : Healthy stored)
    (ended : ∀ until_, stored.lockedUntil = some until_ → until_ ≤ a.now)
    (room : stored.failedLoginAttempts < loginLockoutAttempts) (wrong : ¬ Right env stored a) :
    Kept env dialect stored a := by
  have five : loginLockoutAttempts = 5 := rfl
  cases lock : stored.lockedUntil with
  | none =>
    have called := @step_wrong env dialect stored a healthy lock room wrong
    split_ifs at called with fifth
    · refine ⟨?_, ?_, ?_⟩ <;> rw [called]
      · exact ⟨healthy.active, healthy.verified, room⟩
      · intro _ _
        rfl
      · simp
    · refine ⟨?_, ?_, ?_⟩ <;> rw [called]
      · exact ⟨healthy.active, healthy.verified, room⟩
      · intro _ full
        exact absurd full.ge fifth
      · simp
  | some until_ =>
    have called := @step_over_wrong env dialect stored a healthy ⟨until_, lock, ended until_ lock⟩
      room wrong
    dsimp only at called
    generalize hcount : (if dialect.returning ∧ stored.failedLoginAttempts ≠ 0 then 0
      else stored.failedLoginAttempts + 1) = count at called
    have small : count ≤ stored.failedLoginAttempts + 1 := by
      split_ifs at hcount <;> omega
    split_ifs at called with fifth
    · refine ⟨?_, ?_, ?_⟩ <;> rw [called]
      · exact ⟨healthy.active, healthy.verified, small.trans room⟩
      · intro _ _
        rfl
      · simp
    · refine ⟨?_, ?_, ?_⟩ <;> rw [called]
      · exact ⟨healthy.active, healthy.verified, small.trans room⟩
      · intro _ full
        exact absurd (full.ge.trans small) fifth
      · simp

theorem step_keeps (healthy : Healthy stored) : Kept env dialect stored a := by
  by_cases runs : ∃ until_, stored.lockedUntil = some until_ ∧ a.now < until_
  · obtain ⟨until_, lock, runs⟩ := runs
    have called := @step_locked env dialect stored a until_ lock runs
    refine ⟨?_, ?_, ?_⟩ <;> rw [called]
    · exact healthy
    · rintro (room | free) full
      · exact absurd full room.ne
      · rw [lock] at free
        cases free
    · simp
  have ended : ∀ until_, stored.lockedUntil = some until_ → until_ ≤ a.now := by
    intro until_ lock
    apply not_lt.1
    intro early
    exact runs ⟨until_, lock, early⟩
  rcases lt_or_ge stored.failedLoginAttempts loginLockoutAttempts with room | full
  · by_cases right : Right env stored a
    · obtain ⟨result, hash, called⟩ := @step_right env dialect stored a healthy ended room right
      refine ⟨?_, ?_, ?_⟩ <;> rw [called]
      · exact ⟨healthy.active, healthy.verified, Nat.zero_le _⟩
      · intro _ full
        cases full
      · intro _
        rfl
    · exact kept_wrong healthy ended room right
  · cases lock : stored.lockedUntil with
    | none =>
      have called := @step_full env dialect stored a lock full
      refine ⟨?_, ?_, ?_⟩ <;> rw [called]
      · exact ⟨healthy.active, healthy.verified, healthy.bounded⟩
      · intro _ _
        rfl
      · simp
    | some until_ =>
      have called := @step_over_full env dialect stored a healthy
        ⟨until_, lock, ended until_ lock⟩ full
      refine ⟨?_, ?_, ?_⟩ <;> rw [called]
      · exact ⟨healthy.active, healthy.verified, Nat.zero_le _⟩
      · intro _ full
        cases full
      · simp

/-- A call that finds a lock that is over judges afresh exactly when the stored count is in order. -/
theorem judgedAfresh_iff (healthy : Healthy stored) (ended : Over stored a) :
    JudgedAfresh env dialect stored a ↔ ¬ Stale env stored a := by
  have zero_lt : 0 < loginLockoutAttempts := by decide
  rcases lt_or_ge stored.failedLoginAttempts loginLockoutAttempts with room | full
  · have free : ∀ until_, stored.lockedUntil = some until_ → until_ ≤ a.now := by
      obtain ⟨until_, lock, ended⟩ := ended
      rintro _ same
      rw [lock] at same
      cases same
      exact ended
    by_cases right : Right env stored a
    · have fresh : ¬ Stale env stored a := by
        rintro ⟨-, full | ⟨wrong, -⟩⟩
        · exact absurd room (not_lt.2 full)
        · exact wrong right
      obtain ⟨result, hash, called⟩ := @step_right env dialect stored a healthy free room right
      refine iff_of_true ?_ fresh
      unfold JudgedAfresh
      rw [called]
      refine ⟨rfl, ?_, ?_⟩
      · intro _
        exact ⟨rfl, rfl⟩
      · intro wrong
        exact absurd right wrong
    · have called := @step_over_wrong env dialect stored a healthy ended room right
      dsimp only at called
      by_cases zero : stored.failedLoginAttempts = 0
      · have fresh : ¬ Stale env stored a := by
          rintro ⟨-, full | ⟨-, positive⟩⟩
          · exact absurd room (not_lt.2 full)
          · exact positive zero
        have first : ¬ loginLockoutAttempts ≤ 0 + 1 := by decide
        simp only [zero, first, if_false, ne_eq, not_true, and_false, zero_add] at called
        refine iff_of_true ?_ fresh
        unfold JudgedAfresh
        rw [called]
        refine ⟨rfl, ?_, ?_⟩
        · intro same
          exact absurd same right
        · intro _
          exact ⟨rfl, rfl⟩
      · have stale : Stale env stored a := ⟨ended, .inr ⟨right, zero⟩⟩
        refine iff_of_false ?_ (not_not_intro stale)
        rintro ⟨lock, -, wrong⟩
        obtain ⟨-, once⟩ := wrong right
        rw [called] at lock once
        split_ifs at lock once with fifth reset
        all_goals simp at lock once
        all_goals exact zero once
  · have stale : Stale env stored a := ⟨ended, .inl full⟩
    refine iff_of_false ?_ (not_not_intro stale)
    rintro ⟨-, right, wrong⟩
    rw [step_over_full healthy ended full] at right wrong
    by_cases same : Right env stored a
    · exact absurd (right same).1 (by simp)
    · exact absurd (wrong same).2 (by simp)

end Calls

/-! ## Runs -/

section Runs

variable {env dialect} {stored : User}

theorem after_append (xs ys : List Attempt) :
    after env dialect stored (xs ++ ys) = after env dialect (after env dialect stored xs) ys :=
  List.foldl_append

theorem after_concat (xs : List Attempt) (a : Attempt) :
    after env dialect stored (xs ++ [a]) = (step env dialect (after env dialect stored xs) a).2 :=
  after_append xs [a]

/-- The row stays in order along a run. -/
theorem healthy_after (healthy : Healthy stored) (attempts : List Attempt) :
    Healthy (after env dialect stored attempts) := by
  induction attempts generalizing stored with
  | nil => exact healthy
  | cons a attempts ih => exact ih (step_keeps healthy).healthy

/-- Calls while the lock runs leave the row as it is. -/
theorem after_locked {until_ : Time} (lock : stored.lockedUntil = some until_)
    (attempts : List Attempt) (run : ∀ c ∈ attempts, c.now < until_) :
    after env dialect stored attempts = stored := by
  induction attempts with
  | nil => rfl
  | cons c attempts ih =>
    have first : (step env dialect stored c).2 = stored := by
      rw [step_locked lock (run c List.mem_cons_self)]
    calc after env dialect stored (c :: attempts)
        = after env dialect (step env dialect stored c).2 attempts := rfl
      _ = after env dialect stored attempts := by rw [first]
      _ = stored := ih fun c' h => run c' (List.mem_cons_of_mem c h)

end Runs

/-- The lockout of an active, verified user is exact and temporary over a run of calls exactly when no
call of the run finds a lock that is over together with failures that are still counted in the row. -/
theorem locksOut_iff (stored : User) (healthy : Healthy stored) (attempts : List Attempt) :
    LocksOut env dialect stored attempts ↔
      ∀ before a later, attempts = before ++ a :: later →
        ¬ Stale env (after env dialect stored before) a := by
  constructor
  · intro locksOut before a later split stale
    have judged := locksOut.expires before a later split stale.1
    exact (judgedAfresh_iff (healthy_after healthy before) stale.1).1 judged stale
  · intro fresh
    refine ⟨?_, ?_, ?_, ?_⟩
    · intro before _
      exact (healthy_after healthy before).bounded
    · intro before a between b later _ starts full run
      have kept := @step_keeps env dialect _ a
        (@healthy_after env dialect _ healthy before)
      rw [after_concat] at full ⊢
      have lock := kept.locks starts full
      have still : after env dialect stored (before ++ a :: between) =
          (step env dialect (after env dialect stored before) a).2 := by
        rw [after_append]
        apply after_locked lock between
        intro c hc
        exact run c (List.mem_append_left [b] hc)
      rw [still]
      apply step_locked lock
      exact run b (List.mem_append_right between List.mem_cons_self)
    · intro before a later _ ok
      rw [after_concat]
      exact (step_keeps (healthy_after healthy before)).resets ok
    · intro before a later split ended
      exact (judgedAfresh_iff (healthy_after healthy before) ended).2 (fresh before a later split)

/-! ## The first call after a lockout -/

section Sample

/-- A user whose password is the stored text. -/
def sampleEnv : AuthEnv where
  settings := ⟨60, 24, id, id⟩
  localPassword := true
  normalizeEmail := .ok
  verify password stored := stored == some password
  hash password := password
  needsRehash _ := false
  validatePassword password _ := .ok password

def sampleUser : User where
  id := "u1"
  email := "a@b.c"
  status := .active
  emailVerifiedAt := some 0
  passwordHash := some "right"

/-- Five wrong passwords. -/
def fiveWrong : List Attempt := List.replicate 5 ⟨0, "wrong"⟩

/-- The right password a second before the lockout ends. -/
def lastSecond : Attempt := ⟨seconds 899, "right"⟩

instance (stored : User) (a : Attempt) : Decidable (Over stored a) :=
  decidable_of_iff (stored.lockedUntil.any fun until_ => decide (until_ ≤ a.now)) (by
    unfold Over
    cases stored.lockedUntil <;> simp)

theorem locksOut_of_sample :
    LocksOut sampleEnv ⟨true⟩ sampleUser (fiveWrong ++ [lastSecond]) := by
  refine (locksOut_iff sampleEnv ⟨true⟩ sampleUser ⟨rfl, rfl, by decide⟩ _).2 ?_
  rintro before a later split ⟨ended, -⟩
  have runs : ∀ before ∈ (fiveWrong ++ [lastSecond]).inits,
      ∀ a ∈ fiveWrong ++ [lastSecond],
        ¬ Over (after sampleEnv ⟨true⟩ sampleUser before) a := by
    decide +kernel
  refine runs before ((List.mem_inits _ _).2 ⟨a :: later, split.symm⟩) a ?_ ended
  rw [split]
  exact List.mem_append_right before List.mem_cons_self

/-- The right password fifteen minutes after the fifth failure is refused. -/
theorem lockout_outlasts_its_end :
    ¬ ∀ env dialect stored, Healthy stored → ∀ attempts : List Attempt,
      attempts.Pairwise (fun a b => a.now ≤ b.now) → LocksOut env dialect stored attempts := by
  intro h
  have locksOut := h sampleEnv ⟨true⟩ sampleUser ⟨rfl, rfl, by decide⟩
    (fiveWrong ++ [⟨loginLockoutDuration, "right"⟩]) (by decide +kernel)
  have judged := locksOut.expires fiveWrong ⟨loginLockoutDuration, "right"⟩ [] rfl
    ⟨loginLockoutDuration, by decide +kernel, le_rfl⟩
  have refused : (step sampleEnv ⟨true⟩ (after sampleEnv ⟨true⟩ sampleUser fiveWrong)
      ⟨loginLockoutDuration, "right"⟩).1.isOk = false := by decide +kernel
  rw [(judged.2.1 (by unfold Right; decide +kernel)).1] at refused
  cases refused

end Sample

end Lockout

end DataMover
