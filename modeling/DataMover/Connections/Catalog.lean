import DataMover.Connections.Knowledge

/-!
# The cached catalog of a connection

A cached listing is current when it was fetched with the credential that is stored.  A replacement
drops the cached rows that it finds, but a listing that has read the old credential may write its
row afterwards (`stale_catalog`).  In the runs where no listing commits such a row, and none while a
replacement that has found the cached rows is open, every cached row is current
(`catalog_is_current`).
-/

namespace DataMover

namespace Connections

open ReadCommitted Program Transition
open Credentials (UserSecret)

/-! ## Current rows -/

/-- The row is the stored credential of its owner. -/
def IsCredential (db : Db schema) (userId provider id : String) (row : SecretRow) : Prop :=
  (db.cell ⟨.secrets, id⟩).committed = some row ∧ row.Of userId provider

/-- The bundle of the stored credential of the owner. -/
def Stores (env : ConnectionEnv) (db : Db schema) (userId provider : String) (bundle : Bundle) :
    Prop :=
  ∃ id row, IsCredential db userId provider id row ∧ bundleOf env row.toUserSecret = .ok bundle

/-- Every cached row that a listing can read when it starts was fetched with the bundle of the
stored credential, and there is one stored credential. -/
def CatalogCurrent (env : ConnectionEnv) (db : Db schema) : Prop :=
  ∀ i, (∀ a, (db.cell a).held i = none) → ∀ userId provider catalogNamespace now,
    ∀ row ∈ (show List CacheRow from
      db.rows i .caches (.readable userId provider catalogNamespace now : CacheQuery)),
      Stores env db userId provider row.fetchedWith ∧
        ∀ id id' credential credential', IsCredential db userId provider id credential →
          IsCredential db userId provider id' credential' → id = id'

/-! ## Timely runs -/

/-- The owner whose cached rows the transaction has listed, to drop them. -/
def ConnectionView.dropping (v : ConnectionView) : Option (String × String) :=
  (v.tx.listed .caches).bind fun l =>
    match (show CacheQuery from l.1) with
    | .of userId provider => some (userId, provider)
    | _ => none

variable (env : ConnectionEnv)

/-- The row decrypts to the bundle. -/
def opens (row : UserSecret) (bundle : Bundle) : Bool :=
  match bundleOf env row with
  | .ok bundle' => decide (bundle' = bundle)
  | .error _ => false

/-- The owner has a stored credential with the bundle. -/
def storesNow (db : Db schema) (userId provider : String) (bundle : Bundle) : Bool :=
  (db.keys .secrets).any fun k =>
    (show Option SecretRow from (db.cell ⟨.secrets, k⟩).committed).any fun row =>
      decide (row.Of userId provider) && opens env row.toUserSecret bundle

/-- A cached row is committed while the credential that it was fetched with is stored, and a new one
while no other transaction has listed the cached rows of the owner to drop them. -/
def inTimeAt (db : Db schema) (views : List ConnectionView) (i : Nat) : Bool :=
  (db.keys .caches).all fun k =>
    (show Option CacheRow from (db.cell ⟨.caches, k⟩).held i).all fun row =>
      row.deleted || storesNow env db row.userId row.provider row.fetchedWith &&
        ((db.cell ⟨.caches, k⟩).committed.isSome ||
          views.all fun w => decide (w.dropping ≠ some (row.userId, row.provider)))

/-- A commit that takes effect is in time. -/
def inTime (s : ConnectionPool) : Turn ConnectionCall ConnectionOracle → Bool
  | .start _ => true
  | .answer i o => (s.threads[i]?).all fun thread =>
    thread.program.head.all fun stmt => !commits o stmt || inTimeAt env s.shared s.views i

def InTime (s : ConnectionPool) (turn : Turn ConnectionCall ConnectionOracle) : Prop :=
  inTime env s turn = true

/-! ## What is kept -/

variable {env} {db db' : Db schema} {views : List ConnectionView} {i j : Nat} {v v' w : ConnectionView}
  {o : ConnectionOracle} {s : ConnectionStmt} {r : Except ConnectionExn (ConnectionReply s)}
  {userId provider : String} {bundle : Bundle}

theorem dropping_eq {keys : List String}
    (listed : v.tx.listed .caches = some ((.of userId provider : CacheQuery), keys)) :
    v.dropping = some (userId, provider) := by
  rw [ConnectionView.dropping, listed]
  rfl

theorem opens_iff {row : UserSecret} : opens env row bundle = true ↔ bundleOf env row = .ok bundle := by
  unfold opens
  split
  · rename_i bundle' same
    rw [same, decide_eq_true_iff, Except.ok.injEq]
  · rename_i e same
    rw [same]
    simp

theorem storesNow_iff :
    storesNow env db userId provider bundle = true ↔ Stores env db userId provider bundle := by
  constructor
  · intro h
    obtain ⟨id, -, found⟩ := List.any_eq_true.1 h
    obtain ⟨row, committed, holds⟩ := (Option.any_eq_true _ _).1 found
    obtain ⟨of, opened⟩ := Bool.and_eq_true_iff.1 holds
    exact ⟨id, row, ⟨committed, of_decide_eq_true of⟩, opens_iff.1 opened⟩
  · rintro ⟨id, row, ⟨committed, of⟩, opened⟩
    refine List.any_eq_true.2 ⟨id, ?_, (Option.any_eq_true _ _).2 ⟨row, committed, ?_⟩⟩
    · by_contra absent
      rw [db.total .secrets id absent] at committed
      cases committed
    · exact Bool.and_eq_true_iff.2 ⟨decide_eq_true of, opens_iff.2 opened⟩

/-- What the commit of a transaction in time says of a cached row that it has written. -/
theorem inTimeAt_spec (h : inTimeAt env db views i = true) {k : String} {row : CacheRow}
    (held : (db.cell ⟨.caches, k⟩).held i = some row) (live : row.deleted = false) :
    Stores env db row.userId row.provider row.fetchedWith ∧
      ((db.cell ⟨.caches, k⟩).committed = none →
        ∀ w ∈ views, w.dropping ≠ some (row.userId, row.provider)) := by
  have mem : k ∈ db.keys .caches := Db.mem_keys_of_visible (Cell.visible_of_held held)
  have timely := (Option.all_eq_true _ _).1 (List.all_eq_true.1 h k mem) row held
  rw [live, Bool.false_or, Bool.and_eq_true_iff] at timely
  refine ⟨storesNow_iff.1 timely.1, fun new w mem => ?_⟩
  have others := timely.2
  rw [new, Option.isSome_none, Bool.false_or] at others
  exact of_decide_eq_true (List.all_eq_true.1 others w mem)

/-- A stored credential is there as long as its row is not replaced. -/
theorem Stores.of_same (h : Stores env db userId provider bundle)
    (same : ∀ id (row : SecretRow), (db.cell ⟨.secrets, id⟩).committed = some row →
      row.owner = (userId, provider) → ∃ row' : SecretRow,
        (db'.cell ⟨.secrets, id⟩).committed = some row' ∧ SameCredential row row') :
    Stores env db' userId provider bundle := by
  obtain ⟨id, row, ⟨committed, of⟩, opened⟩ := h
  obtain ⟨row', committed', kept⟩ := same id row committed (Prod.ext of.2.1 of.2.2)
  refine ⟨id, row', ⟨committed', kept.deleted.trans of.1, ?_, ?_⟩, ?_⟩
  · rw [kept.secret, of.2.1]
  · rw [kept.secret, of.2.2]
  · rw [← opened, bundleOf, bundleOf, kept.secret]

/-- What holds of the cached rows in a timely run. -/
structure CatalogInv (env : ConnectionEnv) (db : Db schema) (views : List ConnectionView) : Prop where
  current : ∀ k (row : CacheRow), (db.cell ⟨.caches, k⟩).committed = some row →
    row.deleted = false → Stores env db row.userId row.provider row.fetchedWith
  lists : ∀ (i : Nat) (v : ConnectionView), views[i]? = some v → v.tx.Lists db i .caches
  guarded : ∀ (i : Nat) (v : ConnectionView) (q : CacheQuery) keys, views[i]? = some v →
    v.tx.listed .caches = some (q, keys) → ∃ userId provider, q = .of userId provider

theorem of_iff {row : CacheRow} :
    CacheQuery.holds row (.of userId provider) = true ↔ row.Of userId provider :=
  decide_eq_true_iff

/-- A row that belongs to the provider has always belonged to it. -/
theorem CacheRow.Of.of_evolves {row row' : CacheRow} (rel : Table.Evolves (t := .caches) row row')
    (h : row'.Of userId provider) : row.Of userId provider := by
  refine ⟨Bool.eq_false_iff.2 fun deleted => ?_, rel.1.symm.trans h.2.1, rel.2.1.symm.trans h.2.2⟩
  have gone := h.1
  rw [rel.2.2 deleted] at gone
  cases gone

theorem protects_spec {q : CacheQuery} (h : ConnectionView.protects .caches q = true) :
    ∃ userId provider, q = .of userId provider := by
  cases q with
  | of userId provider => exact ⟨userId, provider, rfl⟩
  | _ => cases h

/-- The cached rows stay current with a commit: the transaction has dropped those of the credentials
that it replaces. -/
theorem CatalogInv.current_commit (inv : CatalogInv env db views) (known : ConnectionInv db views)
    (hi : views[i]? = some v) (relies : v.Relies env .commit)
    (timely : inTimeAt env db views i = true) {k : String} {row : CacheRow}
    (seen : (db.cell ⟨.caches, k⟩).visible i = some row) (live : row.deleted = false) :
    Stores env (db.commit i) row.userId row.provider row.fetchedWith := by
  have kept : (row.userId, row.provider) ∉ v.replaced := by
    intro replaced
    have listed := relies _ replaced
    exact List.not_mem_nil (inv.lists i v hi _ _ listed k row seen (of_iff.2 ⟨live, rfl, rfl⟩))
  have stores : Stores env db row.userId row.provider row.fetchedWith := by
    rcases Option.or_eq_some_iff.1 seen with held | ⟨-, committed⟩
    · exact (inTimeAt_spec timely held live).1
    · exact inv.current k row committed live
  refine stores.of_same fun id credential committed owner => ?_
  cases held : (db.cell ⟨.secrets, id⟩).held i with
  | none =>
    exact ⟨credential, Cell.committed_commit.trans ((Cell.visible_of_not_held held).trans committed),
      .refl credential⟩
  | some version =>
    have rel := known.derived ⟨.secrets, id⟩ i credential version committed held
    obtain ⟨credential', committed', same⟩ := (known.informed i v hi).credentials id version held
      (owner_of_evolves rel ▸ owner ▸ kept)
    rw [committed] at committed'
    cases committed'
    exact ⟨version, Cell.committed_commit.trans (Cell.visible_of_held held), same⟩

/-- Another transaction keeps its list with a commit in time. -/
theorem CatalogInv.lists_commit (inv : CatalogInv env db views) (known : ConnectionInv db views)
    (timely : inTimeAt env db views i = true) (hj : views[j]? = some w) (other : j ≠ i) :
    w.tx.Lists (db.commit i) j .caches := by
  refine (inv.lists j w hj).other (fun _ => .commit) known.derived other ?_ ?_
  · intro q keys listed row row' rel holds
    obtain ⟨userId, provider, rfl⟩ := inv.guarded j w q keys hj listed
    exact of_iff.2 (CacheRow.Of.of_evolves rel (of_iff.1 holds))
  · intro q keys listed k row new held
    obtain ⟨userId, provider, rfl⟩ := inv.guarded j w q keys hj listed
    refine Bool.eq_false_iff.2 fun holds => ?_
    have of := of_iff.1 holds
    refine (inTimeAt_spec timely held of.1).2 new w (List.mem_of_getElem? hj) ?_
    rw [of.2.1, of.2.2]
    exact dropping_eq listed

/-- A statement that commits nothing leaves the rows alone that another transaction sees. -/
theorem lists_of_uncommitted (h : w.tx.Lists db j .caches)
    (steps : ∀ a, CellStep i (db.cell a) (db'.cell a))
    (same : ∀ a, (db'.cell a).committed = (db.cell a).committed) (other : j ≠ i) :
    w.tx.Lists db' j .caches := by
  intro q keys listed k row seen
  rw [Cell.visible, (steps _).held_of_ne other, same] at seen
  exact h q keys listed k row seen

/-- The rows that are committed and the views of the other transactions decide what is kept, when a
transaction commits nothing. -/
theorem CatalogInv.uncommitted (inv : CatalogInv env db views)
    (steps : ∀ a, CellStep i (db.cell a) (db'.cell a))
    (same : ∀ a, (db'.cell a).committed = (db.cell a).committed)
    (lists : v'.tx.Lists db' i .caches)
    (guarded : ∀ (q : CacheQuery) keys, v'.tx.listed .caches = some (q, keys) →
      ∃ userId provider, q = .of userId provider) : CatalogInv env db' (views.set i v') where
  current k row committed live :=
    (inv.current k row ((same _).symm.trans committed) live).of_same fun id credential stored _ =>
      ⟨credential, (same _).trans stored, .refl credential⟩
  lists j w hj := by
    rcases Workload.getElem?_set_cases hj with ⟨rfl, rfl⟩ | ⟨other, hj⟩
    · exact lists
    · exact lists_of_uncommitted (inv.lists j w hj) steps same other
  guarded j w q keys hj listed := by
    rcases Workload.getElem?_set_cases hj with ⟨rfl, rfl⟩ | ⟨-, hj⟩
    · exact guarded q keys listed
    · exact inv.guarded j w q keys hj listed

/-- The invariant is kept by an answer. -/
theorem CatalogInv.serve (inv : CatalogInv env db views) (known : ConnectionInv db views)
    (hi : views[i]? = some v) (allowed : v.Sane → v.Relies env s)
    (timely : commits o s = true → inTimeAt env db views i = true)
    (h : serve o i db s = some (r, db')) : CatalogInv env db' (views.set i (v.observe s r)) := by
  have relies := allowed (known.informed i v hi).sane
  have nothing : ∀ {w : ConnectionView}, w.tx = {} → ∀ {q : CacheQuery} {keys},
      w.tx.listed .caches ≠ some (q, keys) := by
    intro w clean q keys listed
    rw [clean] at listed
    cases listed
  rcases serve_kinds h v with ⟨over_, -, rfl⟩ | ⟨rfl, commits, over_, rfl⟩ |
    ⟨reply, commit, rollback, rfl, he⟩
  · exact inv.uncommitted (fun _ => .rollback) (fun _ => Cell.committed_rollback)
      (fun q keys listed => absurd listed (nothing over_.tx))
      fun q keys listed => absurd listed (nothing over_.tx)
  · have timely := timely commits
    refine ⟨fun k row committed live => ?_, fun j w hj => ?_, fun j w q keys hj listed => ?_⟩
    · exact inv.current_commit known hi relies timely (Cell.committed_commit.symm.trans committed) live
    · rcases Workload.getElem?_set_cases hj with ⟨rfl, rfl⟩ | ⟨other, hj⟩
      · exact fun q keys listed => absurd listed (nothing over_.tx)
      · exact inv.lists_commit known timely hj other
    · rcases Workload.getElem?_set_cases hj with ⟨rfl, rfl⟩ | ⟨-, hj⟩
      · exact absurd listed (nothing over_.tx)
      · exact inv.guarded j w q keys hj listed
  · refine inv.uncommitted (exec_cell he) (exec_committed he commit)
      ((inv.lists i v hi).observe _ he) fun q keys listed => ?_
    rcases Tx.listed_observe listed with ⟨old, before⟩ | ⟨-, guarded⟩
    · exact inv.guarded i v q old hi before
    · exact protects_spec guarded

theorem catalogInv_start (h : Unconnected db) : CatalogInv env db [] where
  current k row committed := by
    rw [h.2.2 k] at committed
    cases committed
  lists i v hi := by simp at hi
  guarded i v q keys hi := by simp at hi

theorem CatalogInv.call (inv : CatalogInv env db views) (isTest : Bool) :
    CatalogInv env db (views ++ [({ isTest := isTest } : ConnectionView)]) := by
  refine { inv with lists := fun j w hj => ?_, guarded := fun j w q keys hj listed => ?_ }
  · rcases getElem?_call hj with hj | ⟨-, rfl⟩
    · exact inv.lists j w hj
    · intro q keys listed
      cases listed
  · rcases getElem?_call hj with hj | ⟨-, rfl⟩
    · exact inv.guarded j w q keys hj listed
    · cases listed

theorem reachable_catalogInv {s : ConnectionPool}
    (h : ((connectionSystem env).restrict (InTime env)).Reachable s) :
    ConnectionInv s.shared s.views ∧ CatalogInv env s.shared s.views := by
  refine Workload.invariant_restrict connections_follow
    (I := fun db views => ConnectionInv db views ∧ CatalogInv env db views) ?_ ?_ ?_ h
  · exact fun db unconnected => ⟨connectionInv_start unconnected, catalogInv_start unconnected⟩
  · exact fun db views call inv => ⟨inv.1.call call.isTest, inv.2.call call.isTest⟩
  · intro s i o thread c next r db' timely inv hi request allowed served
    have view := Workload.getElem?_views hi
    refine ⟨inv.1.serve view allowed served, inv.2.serve inv.1 view allowed (fun commit => ?_) served⟩
    simpa [InTime, inTime, hi, request, Program.head, commit] using timely

/-- In the timely runs every cached row was fetched with the credential that is stored. -/
theorem catalog_is_current {s : ConnectionPool}
    (h : ((connectionSystem env).restrict (InTime env)).Reachable s) :
    CatalogCurrent env s.shared := by
  obtain ⟨known, inv⟩ := reachable_catalogInv h
  intro i idle userId provider catalogNamespace now row found
  obtain ⟨seen, holds⟩ := Db.mem_rows.1 found
  have of : row.Of userId provider := (of_decide_eq_true holds : row.Of userId provider ∧ _).1
  rw [Cell.visible_of_not_held (idle _)] at seen
  refine ⟨?_, fun id id' credential credential' is is' => ?_⟩
  · rw [← of.2.1, ← of.2.2]
    exact inv.current _ row seen of.1
  · exact known.distinct id id' credential credential' (userId, provider)
      (Cell.mem_versions.2 (.inl is.1)) (Cell.mem_versions.2 (.inl is'.1))
      (liveOwner_eq.2 ⟨is.2.1, Prod.ext is.2.2.1 is.2.2.2⟩)
      (liveOwner_eq.2 ⟨is'.2.1, Prod.ext is'.2.2.1 is'.2.2.2⟩)

/-! ## Listings and replacements -/

/-- Surroundings of connections with plain text in place of ciphers. -/
def plainConnections : ConnectionEnv where
  aead := ⟨fun _ _ text _ => text, fun _ _ text _ => some text⟩
  ring := Credentials.sampleRing
  limits := ⟨4300, 2⟩
  activeKeyId := "v1"
  maxWrapsPerKey := 10
  isDemoMode := false
  catalogTtlSeconds := 60
  upsertAttempts := 3
  requireProvider := .ok
  validate _ credentials := .ok credentials
  parseExpiryInput _ := .error (.value "Enter a valid date.")
  tokenClaim _ := none
  casefold := id
  isoformat time := PyJson.ofString (toString time)
  connectionFailure code reference _ := (code.value, reference)
  redactText := id
  dumps payload := toString payload.items.length
  loads text := if text = "0" then some ⟨[], none⟩ else none

def tokenA : Bundle := [(PyJson.ofString "token", PyJson.ofString "a")]

def tokenB : Bundle := [(PyJson.ofString "token", PyJson.ofString "b")]

def oneUser : Db schema := Db.load [⟨.users, "user"⟩]

theorem unconnected_oneUser : Unconnected oneUser :=
  ⟨Db.lock_load _, fun _ => rfl, fun _ => rfl⟩

/-- Answers to the thread `i` at this time, with this key. -/
def repliesTo (i : Nat) (now : Time) (id : String) (n : Nat) :
    List (Turn ConnectionCall ConnectionOracle) :=
  List.replicate n (.answer i {
    now := now
    newId := id
    drawn := ⟨[2], [3], [4]⟩ })

def toSave (credentials : Bundle) : Turn ConnectionCall ConnectionOracle :=
  .start (.save "user" "postgres" credentials)

/-- A listing of no namespaces. -/
def toBrowse : Turn ConnectionCall ConnectionOracle :=
  .start (.browse "user" [⟨"postgres", none, [⟨0, fun _ => .ok ⟨[], none⟩⟩]⟩] 0)

def toDelete : Turn ConnectionCall ConnectionOracle := .start (.delete "user" "postgres")

/-- The cached listing of the first credential is dropped with it, and listed again with the
second. -/
def browsingAgain : List (Turn ConnectionCall ConnectionOracle) :=
  toSave tokenA :: repliesTo 0 1 "secret" 8 ++ toBrowse :: repliesTo 1 2 "cached" 7 ++
    toDelete :: repliesTo 2 3 "" 7 ++ toSave tokenB :: repliesTo 3 4 "secret2" 9 ++
    toBrowse :: repliesTo 4 5 "cached2" 7

/-- The listing has fetched with the first credential, and writes its row when the second one is
stored. -/
def browsingLate : List (Turn ConnectionCall ConnectionOracle) :=
  toSave tokenA :: repliesTo 0 1 "secret" 8 ++ toBrowse :: repliesTo 1 2 "cached" 4 ++
    toSave tokenB :: repliesTo 2 3 "" 7 ++ repliesTo 1 4 "cached" 3

/-- The bundles of the cached rows that a listing reads when it starts. -/
def readable (db : Db schema) (i : Nat) : List Bundle :=
  (show List CacheRow from db.rows i .caches (.readable "user" "postgres" "" 5 : CacheQuery)).map
    (·.fetchedWith)

/-- A checked run from one user. -/
theorem reachable_checked {good : ConnectionPool → Turn ConnectionCall ConnectionOracle → Bool}
    {ok : ConnectionPool → Turn ConnectionCall ConnectionOracle → Prop}
    (sound : ∀ s turn, good s turn = true → ok s turn) {s : ConnectionPool}
    {is : List (Turn ConnectionCall ConnectionOracle)}
    (h : run (checked good (connectionWorkload plainConnections).step) ⟨oneUser, []⟩ is = some s) :
    ((connectionSystem plainConnections).restrict ok).Reachable s := by
  have initial : ((connectionSystem plainConnections).restrict ok).Reachable ⟨oneUser, []⟩ :=
    .init ⟨unconnected_oneUser, rfl⟩
  exact initial.steps (restrict_steps_of_checked sound h)

theorem reachable_oneUser {is : List (Turn ConnectionCall ConnectionOracle)} {s : ConnectionPool}
    (h : run (connectionWorkload plainConnections).step ⟨oneUser, []⟩ is = some s) :
    (connectionSystem plainConnections).Reachable s := by
  have initial : (connectionSystem plainConnections).Reachable ⟨oneUser, []⟩ :=
    .init ⟨unconnected_oneUser, rfl⟩
  exact initial.steps (steps_of_run h)

theorem catalog_is_current_again : ∃ s : ConnectionPool,
    ((connectionSystem plainConnections).restrict (InTime plainConnections)).Reachable s ∧
      CatalogCurrent plainConnections s.shared ∧ readable s.shared 5 = [tokenB] := by
  have outcome : (run (checked (inTime plainConnections) (connectionWorkload plainConnections).step)
      ⟨oneUser, []⟩ browsingAgain).map (fun s => decide (readable s.shared 5 = [tokenB])) =
        some true := by
    decide +kernel
  obtain ⟨s, hs, outcome⟩ := Option.map_eq_some_iff.1 outcome
  have reachable : ((connectionSystem plainConnections).restrict
      (InTime plainConnections)).Reachable s := reachable_checked (fun _ _ good => good) hs
  exact ⟨s, reachable, catalog_is_current reachable, of_decide_eq_true outcome⟩

/-- The row is the credential of the user, with the second bundle. -/
def isSecond (row : SecretRow) : Bool :=
  decide (row.Of "user" "postgres") && opens plainConnections row.toUserSecret tokenB

theorem stale_catalog : ∃ s : ConnectionPool, (connectionSystem plainConnections).Reachable s ∧
    ¬ CatalogCurrent plainConnections s.shared := by
  have outcome : (run (connectionWorkload plainConnections).step ⟨oneUser, []⟩ browsingLate).map
      (fun s => decide (s.threads.length = 3 ∧ readable s.shared 3 = [tokenA]) &&
        (show Option SecretRow from (s.shared.cell ⟨.secrets, "secret"⟩).committed).any isSecond) =
          some true := by
    decide +kernel
  obtain ⟨s, hs, outcome⟩ := Option.map_eq_some_iff.1 outcome
  have reachable := reachable_oneUser hs
  obtain ⟨found, second⟩ := Bool.and_eq_true_iff.1 outcome
  obtain ⟨three, found⟩ := of_decide_eq_true found
  refine ⟨s, reachable, fun current => ?_⟩
  have idle : ∀ a, (s.shared.cell a).held 3 = none := by
    refine (reachable_connectionInv reachable).absent 3 (List.getElem?_eq_none ?_)
    rw [Pool.views, List.length_map, three]
  obtain ⟨row, mem, same⟩ := List.mem_map.1 (found ▸ List.mem_singleton_self tokenA)
  obtain ⟨⟨id, credential, stored, opened⟩, single⟩ := current 3 idle "user" "postgres" "" 5 row mem
  -- the stored credential has the second bundle, the row was fetched with the first
  obtain ⟨replacement, committed, second⟩ := (Option.any_eq_true _ _).1 second
  obtain ⟨of, opens⟩ := Bool.and_eq_true_iff.1 second
  obtain rfl := single id "secret" credential replacement stored ⟨committed, of_decide_eq_true of⟩
  cases stored.1.symm.trans committed
  rw [same, opens_iff.1 opens] at opened
  have differs : tokenB ≠ tokenA := by decide
  exact differs (Except.ok.inj opened)

end Connections

end DataMover
