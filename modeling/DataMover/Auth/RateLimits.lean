import DataMover.Dict
import DataMover.Engine.Transfer
import DataMover.Transition

/-!
# Rate limits

`check_rate_limit` counts the calls of an aligned window in a row of `rate_limit_buckets` and deletes the
rows that have expired.  Calls of any number of processes run side by side: a statement waits for the
rows that another call has changed and not yet committed.  A bucket lives for two windows, so as long as
the statements of a call run within one window of its clock reading, no live bucket is ever deleted, and
the calls of a window get the counts one, two, three and so on.
-/

namespace DataMover

open Transition

/-! ## The source -/

/-- What `check_rate_limit` reads from the settings, with the limits enabled, and from libraries. -/
structure RateConfig where
  rateLimitWindowSeconds : Nat
  pos : 1 ≤ rateLimitWindowSeconds
  /-- `hmac.new(pepper, text, sha256).hexdigest()`. -/
  hmac : String → String
  /-- `text.casefold()`. -/
  casefold : String → String

/-- The arguments of `check_rate_limit`; `source` is the address of the client, or `"unknown"`. -/
structure RateRequest where
  scope : String
  source : String
  sourceLimit : Nat
  accountLimit : Option Nat := none
  accountKey : Option String := none
  deriving DecidableEq

/-- The primary key of `rate_limit_buckets`; times are microseconds. -/
structure RateKey where
  scope : String
  keyHash : String
  windowStartedAt : Nat
  deriving DecidableEq

/-- The other columns. -/
structure RateRow where
  count : Nat
  expiresAt : Nat
  deriving DecidableEq

namespace RateConfig

variable (config : RateConfig)

/-- The length of a window. -/
def window : Nat := config.rateLimitWindowSeconds * 1000000

/-- `_window_start`. -/
def windowStart (now : Nat) : Nat :=
  let epoch := now / 1000000
  (epoch - epoch % config.rateLimitWindowSeconds) * 1000000

/-- `_key_hash`. -/
def keyHash (scope kind value : String) : String := config.hmac (scope ++ ":" ++ kind ++ ":" ++ value)

/-- The kinds, values and limits that a call checks. -/
def checks (r : RateRequest) : List (String × String × Nat) :=
  ("source", r.source, r.sourceLimit) ::
    match r.accountKey.filter (· ≠ ""), r.accountLimit with
    | some key, some limit => [("account", config.casefold (strip key), limit)]
    | _, _ => []

/-- The buckets of a call with their limits. -/
def buckets (r : RateRequest) (now : Nat) : Dict RateKey Nat :=
  (config.checks r).map fun check =>
    (⟨r.scope ++ ":" ++ check.1, config.keyHash r.scope check.1 check.2.1, config.windowStart now⟩,
      check.2.2)

/-- `expires_at`. -/
def expiresAt (now : Nat) : Nat := config.windowStart now + 2 * config.window

end RateConfig

/-! ## Calls side by side -/

/-- A row, its last committed version, and the version of the call that has locked it. -/
structure RateCell where
  committed : Option RateRow := none
  pending : Option (Nat × Option RateRow) := none
  deriving DecidableEq

namespace RateCell

/-- The newest version. -/
def newest (cell : RateCell) : Option RateRow :=
  match cell.pending with
  | some (_, row) => row
  | none => cell.committed

/-- Another call has locked the row. -/
def heldByOther (cell : RateCell) (i : Nat) : Bool :=
  match cell.pending with
  | some (j, _) => j ≠ i
  | none => false

/-- The version that a statement of the call `i` sees. -/
def visibleTo (cell : RateCell) (i : Nat) : Option RateRow :=
  if cell.heldByOther i then cell.committed else cell.newest

/-- `expires_at <= now`, for the version that the call `i` sees. -/
def due (cell : RateCell) (i now : Nat) : Bool := (cell.visibleTo i).any fun row => row.expiresAt ≤ now

def commit (cell : RateCell) (i : Nat) : RateCell :=
  if cell.heldByOther i then cell else { committed := cell.newest }

@[simp] theorem newest_commit (cell : RateCell) (i : Nat) : (cell.commit i).newest = cell.newest := by
  unfold commit
  split_ifs <;> rfl

end RateCell

/-- A call: its clock reading, the counts it got so far, and whether it has purged and committed. -/
structure RateCall where
  request : RateRequest
  now : Nat
  counts : List Nat := []
  purged : Bool := false
  committed : Bool := false
  deriving DecidableEq

structure RateState where
  clock : Nat
  table : Dict RateKey RateCell := []
  calls : List RateCall := []
  deriving DecidableEq

/-- Time passes, a call reads the clock, or the call `i` runs its next statement. -/
inductive RateLabel where
  | tick (clock : Nat)
  | arrive (request : RateRequest)
  | increment (i : Nat)
  | purge (i : Nat)
  | commit (i : Nat)
  deriving DecidableEq

namespace RateState

variable (config : RateConfig)

/-- The cell of a bucket. -/
def cell (s : RateState) (b : RateKey) : RateCell := (s.table.get b).getD {}

/-- `_increment` of the next check: the row is inserted, or its count goes up by one. -/
def increment (s : RateState) (i : Nat) : Option RateState := do
  let call ← s.calls[i]?
  let (b, _) ← (config.buckets call.request call.now)[call.counts.length]?
  if (s.cell b).heldByOther i then none
  else
    let count := match (s.cell b).newest with
      | some row => row.count + 1
      | none => 1
    some { s with
      table := s.table.set b
        { s.cell b with pending := some (i, some ⟨count, config.expiresAt call.now⟩) }
      calls := s.calls.set i { call with counts := call.counts ++ [count] } }

/-- The deletion of the expired rows, after the last check. -/
def purge (s : RateState) (i : Nat) : Option RateState := do
  let call ← s.calls[i]?
  if call.counts.length < (config.buckets call.request call.now).length ∨ call.purged then none
  else if s.table.any fun e => e.2.due i call.now && e.2.heldByOther i then none
  else
    some { s with
      table := s.table.map fun e =>
        (e.1, if e.2.due i call.now then { e.2 with pending := some (i, none) } else e.2)
      calls := s.calls.set i { call with purged := true } }

/-- `db.commit()`. -/
def commit (s : RateState) (i : Nat) : Option RateState := do
  let call ← s.calls[i]?
  if call.purged ∧ ¬ call.committed then
    some { s with
      table := s.table.map fun e => (e.1, e.2.commit i)
      calls := s.calls.set i { call with committed := true } }
  else none

def step (s : RateState) : RateLabel → Option RateState
  | .tick clock => if s.clock ≤ clock then some { s with clock } else none
  | .arrive request => some { s with calls := s.calls ++ [{ request, now := s.clock }] }
  | .increment i => s.increment config i
  | .purge i => s.purge config i
  | .commit i => s.commit i

/-- All interleavings, from an empty table. -/
def system : System RateState RateLabel := System.ofStep (step config) fun s => s.table = [] ∧ s.calls = []

/-- The statements of a call run less than a window after its clock reading. -/
def Timely (s : RateState) : RateLabel → Prop
  | .increment i | .purge i =>
    ∀ call ∈ s.calls[i]?, s.clock < call.now + config.window
  | _ => True

end RateState

/-! ## The counts of a bucket -/

/-- An element of a list is replaced by one with an image of its own. -/
theorem filterMap_set_perm {α β : Type*} {l : List α} {i : Nat} {a a' : α} {b : β} {f : α → Option β}
    (h : l[i]? = some a) (none : f a = none) (some : f a' = some b) :
    ((l.set i a').filterMap f).Perm (l.filterMap f ++ [b]) := by
  induction l generalizing i with
  | nil => cases h
  | cons x l ih =>
    cases i with
    | zero =>
      cases h
      rw [List.set_cons_zero, List.filterMap_cons_some some, List.filterMap_cons_none none]
      exact (List.perm_append_singleton b _).symm
    | succ i =>
      rw [List.set_cons_succ]
      cases image : f x with
      | none =>
        rw [List.filterMap_cons_none image, List.filterMap_cons_none image]
        exact ih h
      | some y =>
        rw [List.filterMap_cons_some image, List.filterMap_cons_some image]
        exact (ih h).cons y

/-- An element of a list is replaced by one with the same image. -/
theorem filterMap_set_same {α β : Type*} {l : List α} {i : Nat} {a a' : α} {f : α → Option β}
    (h : l[i]? = some a) (same : f a' = f a) : (l.set i a').filterMap f = l.filterMap f := by
  induction l generalizing i with
  | nil => rfl
  | cons x l ih =>
    cases i with
    | zero =>
      cases h
      rw [List.set_cons_zero, List.filterMap_cons, List.filterMap_cons, same]
    | succ i => rw [List.set_cons_succ, List.filterMap_cons, List.filterMap_cons, ih h]

namespace RateConfig

variable (config : RateConfig)

theorem lt_windowStart_add (now : Nat) : now < config.windowStart now + config.window := by
  have part := Nat.mod_lt (now / 1000000) config.pos
  have below := Nat.mod_le (now / 1000000) config.rateLimitWindowSeconds
  unfold windowStart window
  dsimp only
  omega

/-- The checks of a call have buckets of their own. -/
theorem buckets_nodup (r : RateRequest) (now : Nat) : ((config.buckets r now).map Prod.fst).Nodup := by
  have kinds : (config.checks r).Pairwise fun a b => a.1 ≠ b.1 := by
    unfold checks
    split <;> simp
  rw [buckets, List.map_map]
  refine List.pairwise_map.2 (kinds.imp fun {a b} other same => other ?_)
  have scopes := congrArg (fun key => key.scope.toList) same
  simp only [Function.comp, String.toList_append] at scopes
  exact String.toList_injective (List.append_cancel_left scopes)

theorem windowStartedAt_of_mem {r : RateRequest} {now : Nat} {b : RateKey} {limit : Nat}
    (h : (b, limit) ∈ config.buckets r now) : b.windowStartedAt = config.windowStart now := by
  obtain ⟨check, -, same⟩ := List.mem_map.1 h
  cases same
  rfl

end RateConfig

namespace RateCall

variable (config : RateConfig)

/-- The keys of the buckets that a call checks. -/
def keys (call : RateCall) : List RateKey := (config.buckets call.request call.now).map Prod.fst

/-- The count that a call got from a bucket. -/
def countFor (b : RateKey) (call : RateCall) : Option Nat := Dict.get ((call.keys config).zip call.counts) b

/-- The call checks the bucket. -/
def asks (b : RateKey) (call : RateCall) : Bool := b ∈ call.keys config

/-- The call checks the bucket and has not counted yet. -/
def waits (b : RateKey) (call : RateCall) : Bool := call.asks config b && (call.countFor config b).isNone

/-- The call returned without an exception: it is committed, and no count exceeds its limit. -/
def accepted (call : RateCall) : Bool :=
  call.committed && ((config.buckets call.request call.now).zip call.counts).all fun e => e.2 ≤ e.1.2

variable {config}

theorem asks_of_countFor {call : RateCall} {b : RateKey} {n : Nat}
    (h : call.countFor config b = some n) : call.asks config b = true :=
  decide_eq_true (List.of_mem_zip (Dict.mem_of_get h)).1

theorem getElem?_keys {call : RateCall} {k : Nat} {b : RateKey} {limit : Nat}
    (h : (config.buckets call.request call.now)[k]? = some (b, limit)) :
    (call.keys config)[k]? = some b := by
  rw [keys, List.getElem?_map, h]
  rfl

/-- The next check has no count yet. -/
theorem countFor_next {call : RateCall} {b : RateKey} {limit : Nat}
    (next : (config.buckets call.request call.now)[call.counts.length]? = some (b, limit)) :
    call.countFor config b = none := by
  have key := getElem?_keys next
  refine List.lookup_eq_none_iff.2 fun e mem => bne_iff_ne.2 fun same => ?_
  obtain ⟨j, lt, at_j⟩ := List.mem_iff_getElem.1 mem
  obtain ⟨in_keys, in_counts⟩ := lt_min_iff.1 (List.length_zip ▸ lt)
  rw [List.getElem_zip] at at_j
  have at_key : (call.keys config)[j]? = some b := by
    rw [List.getElem?_eq_getElem in_keys, same, ← at_j]
  have := (List.getElem?_inj in_keys (config.buckets_nodup call.request call.now)).1
    (at_key.trans key.symm)
  omega

/-- One more count, for the bucket of the next check. -/
theorem countFor_append {call : RateCall} {b : RateKey} {limit n : Nat}
    (next : (config.buckets call.request call.now)[call.counts.length]? = some (b, limit))
    (b' : RateKey) :
    ({ call with counts := call.counts ++ [n] } : RateCall).countFor config b' =
      if b' = b then some n else call.countFor config b' := by
  have longer {l : List RateKey} {counts : List Nat} (h : l[counts.length]? = some b) :
      l.zip (counts ++ [n]) = l.zip counts ++ [(b, n)] := by
    induction counts generalizing l with
    | nil =>
      cases l with
      | nil => cases h
      | cons key l =>
        cases h
        simp
    | cons c counts ih =>
      cases l with
      | nil => cases h
      | cons key l => rw [List.cons_append, List.zip_cons_cons, ih h, List.zip_cons_cons, List.cons_append]
  show Dict.get ((call.keys config).zip (call.counts ++ [n])) b' = _
  rw [longer (getElem?_keys next), Dict.get, List.lookup_append]
  by_cases same : b' = b
  · subst same
    have fresh : List.lookup b' ((call.keys config).zip call.counts) = none := countFor_next next
    rw [fresh, if_pos rfl]
    simp
  · rw [if_neg same, List.lookup_cons, beq_false_of_ne same, countFor, Dict.get]
    simp

end RateCall

/-! ## The invariant -/

namespace RateState

variable (config : RateConfig)

/-- The counts that the calls have got from a bucket. -/
def obtained (s : RateState) (b : RateKey) : List Nat := s.calls.filterMap (RateCall.countFor config b)

/-- The stored count of a bucket, in its newest version. -/
def storedCount (s : RateState) (b : RateKey) : Nat := ((s.cell b).newest.map RateRow.count).getD 0

/-- The bucket lives: a call of its window may still arrive. -/
def Live (s : RateState) (b : RateKey) : Prop := s.clock < b.windowStartedAt + 2 * config.window

/-- Clock readings lie in the past, a call purges after its last check and commits after that, a live
bucket holds the number of calls counted so far, and the counts of a bucket are one, two, three and so
on. -/
structure Inv (s : RateState) : Prop where
  past : ∀ call ∈ s.calls, call.now ≤ s.clock
  counted : ∀ call ∈ s.calls, call.purged = true → (call.keys config).length ≤ call.counts.length
  purged : ∀ call ∈ s.calls, call.committed = true → call.purged = true
  expires : ∀ b row, (s.cell b).newest = some row →
    row.expiresAt = b.windowStartedAt + 2 * config.window
  stored : ∀ b, s.Live config b → s.storedCount b = (s.obtained config b).length
  numbered : ∀ b, (s.obtained config b).Perm (List.range' 1 (s.obtained config b).length)

variable {config} {s s' : RateState} {i : Nat}

theorem cell_set (b b' : RateKey) (cell : RateCell) (calls : List RateCall) :
    ({ s with table := s.table.set b cell, calls } : RateState).cell b' =
      if b' = b then cell else s.cell b' := by
  rw [RateState.cell, Dict.get_set]
  split_ifs <;> rfl

theorem cell_map {f : RateCell → RateCell} (empty : f {} = {}) (calls : List RateCall) (b : RateKey) :
    ({ s with table := s.table.map fun e => (e.1, f e.2), calls } : RateState).cell b = f (s.cell b) := by
  rw [RateState.cell, Dict.get_map, RateState.cell]
  cases s.table.get b with
  | none => exact empty.symm
  | some cell => rfl

/-- What an increment does. -/
theorem increment_cases (h : s.increment config i = some s') :
    ∃ call b limit, s.calls[i]? = some call ∧
      (config.buckets call.request call.now)[call.counts.length]? = some (b, limit) ∧
      s'.clock = s.clock ∧
      (∀ b', (s'.cell b').newest =
        if b' = b then some ⟨s.storedCount b + 1, config.expiresAt call.now⟩ else (s.cell b').newest) ∧
      s'.calls = s.calls.set i { call with counts := call.counts ++ [s.storedCount b + 1] } := by
  obtain ⟨call, hcall, h⟩ := Option.bind_eq_some_iff.1 h
  obtain ⟨⟨b, limit⟩, hb, h⟩ := Option.bind_eq_some_iff.1 h
  dsimp only at h
  split_ifs at h with held
  have count : (match (s.cell b).newest with
      | some row => row.count + 1
      | none => 1) = s.storedCount b + 1 := by
    rw [storedCount]
    cases (s.cell b).newest <;> rfl
  cases h
  refine ⟨call, b, limit, hcall, hb, rfl, fun b' => ?_, by rw [count]⟩
  rw [cell_set, count]
  split_ifs <;> rfl

/-- What a purge does. -/
theorem purge_cases (h : s.purge config i = some s') :
    ∃ call, s.calls[i]? = some call ∧ (call.keys config).length ≤ call.counts.length ∧
      s'.clock = s.clock ∧
      (∀ b, (s'.cell b).newest = (s.cell b).newest ∨
        (s'.cell b).newest = none ∧ ∃ row, (s.cell b).newest = some row ∧ row.expiresAt ≤ call.now) ∧
      s'.calls = s.calls.set i { call with purged := true } := by
  obtain ⟨call, hcall, h⟩ := Option.bind_eq_some_iff.1 h
  split_ifs at h with early blocked
  obtain ⟨counted, -⟩ := not_or.1 early
  cases h
  refine ⟨call, hcall, by rw [RateCall.keys, List.length_map]; omega, rfl, fun b => ?_, rfl⟩
  rw [cell_map (f := fun cell => if cell.due i call.now then { cell with pending := some (i, none) }
    else cell) rfl]
  by_cases due : (s.cell b).due i call.now
  · rw [if_pos due]
    refine .inr ⟨rfl, ?_⟩
    have free : (s.cell b).heldByOther i = false := by
      by_contra held
      rw [Bool.not_eq_false] at held
      refine blocked (List.any_eq_true.2 ?_)
      cases found : s.table.get b with
      | none =>
        rw [RateState.cell, found] at held
        cases held
      | some cell =>
        rw [RateState.cell, found, Option.getD_some] at due held
        exact ⟨_, Dict.mem_of_get found, by rw [due, held]; rfl⟩
    rw [RateCell.due, RateCell.visibleTo, free] at due
    obtain ⟨row, newest, expired⟩ := (Option.any_eq_true _ _).1 due
    exact ⟨row, newest, of_decide_eq_true expired⟩
  · rw [if_neg due]
    exact .inl rfl

/-- What a commit does. -/
theorem commit_cases (h : s.commit i = some s') :
    ∃ call, s.calls[i]? = some call ∧ call.purged = true ∧ s'.clock = s.clock ∧
      (∀ b, (s'.cell b).newest = (s.cell b).newest) ∧
      s'.calls = s.calls.set i { call with committed := true } := by
  obtain ⟨call, hcall, h⟩ := Option.bind_eq_some_iff.1 h
  split_ifs at h with ready
  cases h
  refine ⟨call, hcall, ready.1, rfl, fun b => ?_, rfl⟩
  rw [cell_map (f := fun cell => cell.commit i) rfl, RateCell.newest_commit]

/-- A call is replaced by one that asks the same and has got the same counts. -/
theorem obtained_set {call call' : RateCall} (hcall : s.calls[i]? = some call)
    (same : ∀ b, call'.countFor config b = call.countFor config b)
    (calls : s'.calls = s.calls.set i call') (b : RateKey) :
    s'.obtained config b = s.obtained config b := by
  rw [obtained, obtained, calls]
  exact filterMap_set_same hcall (same b)

/-- The call gets one more count from a bucket, and the other buckets none. -/
theorem obtained_increment {call : RateCall} {b : RateKey} {limit n : Nat}
    (hcall : s.calls[i]? = some call)
    (next : (config.buckets call.request call.now)[call.counts.length]? = some (b, limit))
    (calls : s'.calls = s.calls.set i { call with counts := call.counts ++ [n] }) :
    (s'.obtained config b).Perm (s.obtained config b ++ [n]) ∧
      ∀ b' ≠ b, s'.obtained config b' = s.obtained config b' := by
  have image := RateCall.countFor_append (n := n) next
  rw [obtained, obtained, calls]
  refine ⟨filterMap_set_perm hcall (RateCall.countFor_next next) ((image b).trans (if_pos rfl)),
    fun b' other => ?_⟩
  rw [obtained, obtained, calls]
  exact filterMap_set_same hcall ((image b').trans (if_neg other))

theorem Inv.increment (inv : s.Inv config) (h : s.increment config i = some s')
    (timely : Timely config s (.increment i)) : s'.Inv config := by
  obtain ⟨call, b, limit, hcall, next, clock, newest, calls⟩ := increment_cases h
  have mem := List.mem_of_getElem? hcall
  have start := config.windowStartedAt_of_mem (List.mem_of_getElem? next)
  have live : s.Live config b := by
    have soon := timely call hcall
    have late := config.lt_windowStart_add call.now
    rw [Live, start]
    omega
  have stored := inv.stored b live
  obtain ⟨perm, others⟩ := obtained_increment hcall next calls
  have from_calls {P : RateCall → Prop} (old : ∀ c ∈ s.calls, P c)
      (new : P { call with counts := call.counts ++ [s.storedCount b + 1] }) : ∀ c ∈ s'.calls, P c := by
    intro c hc
    rw [calls] at hc
    rcases List.mem_or_eq_of_mem_set hc with hc | rfl
    · exact old c hc
    · exact new
  constructor
  · rw [clock]
    exact from_calls inv.past (inv.past call mem)
  · refine from_calls inv.counted fun purged => ?_
    have := inv.counted call mem purged
    rw [List.length_append]
    exact Nat.le_add_right_of_le this
  · exact from_calls inv.purged (inv.purged call mem)
  · intro b' row hrow
    rw [newest] at hrow
    split_ifs at hrow with same
    · cases hrow
      rw [same, start]
      rfl
    · exact inv.expires b' row hrow
  · intro b' live'
    rw [Live, clock] at live'
    rw [storedCount, newest]
    by_cases same : b' = b
    · subst same
      rw [if_pos rfl, perm.length_eq, List.length_append, ← stored]
      rfl
    · rw [if_neg same, others b' same, ← inv.stored b' live', storedCount]
  · intro b'
    by_cases same : b' = b
    · subst same
      refine perm.trans ?_
      rw [perm.length_eq, List.length_append, stored, List.length_singleton, List.range'_1_concat,
        Nat.add_comm 1]
      exact (inv.numbered b').append_right _
    · rw [others b' same]
      exact inv.numbered b'

/-- A step of a call that gets no count. -/
theorem Inv.keep {call call' : RateCall} (inv : s.Inv config) (hcall : s.calls[i]? = some call)
    (calls : s'.calls = s.calls.set i call') (clock : s'.clock = s.clock)
    (own : call'.request = call.request ∧ call'.now = call.now ∧ call'.counts = call.counts)
    (counted : call'.purged = true → (call'.keys config).length ≤ call'.counts.length)
    (purged : call'.committed = true → call'.purged = true)
    (newest : ∀ b, (s'.cell b).newest = (s.cell b).newest ∨
      (s'.cell b).newest = none ∧ ∃ row, (s.cell b).newest = some row ∧ row.expiresAt ≤ call.now) :
    s'.Inv config := by
  have mem := List.mem_of_getElem? hcall
  have from_calls {P : RateCall → Prop} (old : ∀ c ∈ s.calls, P c) (new : P call') :
      ∀ c ∈ s'.calls, P c := by
    intro c hc
    rw [calls] at hc
    rcases List.mem_or_eq_of_mem_set hc with hc | rfl
    · exact old c hc
    · exact new
  have obtained := @obtained_set config s s' i call call' hcall
    (fun b => by rw [RateCall.countFor, RateCall.countFor, RateCall.keys, RateCall.keys, own.1, own.2.1,
      own.2.2]) calls
  constructor
  · rw [clock]
    exact from_calls inv.past (own.2.1 ▸ inv.past call mem)
  · exact from_calls inv.counted counted
  · exact from_calls inv.purged purged
  · intro b row hrow
    rcases newest b with same | ⟨gone, -⟩
    · exact inv.expires b row (same ▸ hrow)
    · rw [gone] at hrow
      cases hrow
  · intro b live
    rw [Live, clock] at live
    rw [obtained, ← inv.stored b live, storedCount, storedCount]
    rcases newest b with same | ⟨-, row, hrow, expired⟩
    · rw [same]
    · -- a row that has expired is not the one of a live bucket
      have := inv.expires b row hrow
      have := inv.past call mem
      omega
  · intro b
    rw [obtained]
    exact inv.numbered b

theorem Inv.step (inv : s.Inv config) {label : RateLabel} (h : s.step config label = some s')
    (timely : Timely config s label) : s'.Inv config := by
  cases label with
  | tick clock =>
    obtain ⟨later, moved⟩ := Option.ite_none_right_eq_some.1 h
    cases moved
    exact { inv with
      past := fun call mem => (inv.past call mem).trans later
      stored := fun b live => inv.stored b (lt_of_le_of_lt later live) }
  | arrive request =>
    cases h
    have obtained (b : RateKey) :
        ({ s with calls := s.calls ++ [{ request, now := s.clock }] } : RateState).obtained config b =
          s.obtained config b := by
      simp [RateState.obtained, RateCall.countFor]
    have from_calls {P : RateCall → Prop} (old : ∀ c ∈ s.calls, P c)
        (new : P { request, now := s.clock }) : ∀ c ∈ s.calls ++ [{ request, now := s.clock }], P c :=
      List.forall_mem_append.2 ⟨old, List.forall_mem_singleton.2 new⟩
    exact {
      past := from_calls inv.past (Nat.le_refl _)
      counted := from_calls inv.counted (fun purged => by cases purged)
      purged := from_calls inv.purged (fun committed => by cases committed)
      expires := inv.expires
      stored := fun b live => by rw [obtained]; exact inv.stored b live
      numbered := fun b => by rw [obtained]; exact inv.numbered b }
  | increment i => exact inv.increment h timely
  | purge i =>
    obtain ⟨call, hcall, counted, clock, newest, calls⟩ := purge_cases h
    exact inv.keep hcall calls clock ⟨rfl, rfl, rfl⟩ (fun _ => counted) (fun _ => rfl) newest
  | commit i =>
    obtain ⟨call, hcall, purged, clock, newest, calls⟩ := commit_cases h
    have mem := List.mem_of_getElem? hcall
    exact inv.keep hcall calls clock ⟨rfl, rfl, rfl⟩ (inv.counted call mem) (fun _ => purged)
      fun b => .inl (newest b)

/-- The invariant holds in every run whose statements are timely. -/
theorem inv_of_reachable (h : ((system config).restrict (Timely config)).Reachable s) :
    s.Inv config := by
  refine h.invariant (I := fun s => s.Inv config) (fun s hs => ?_)
    fun s label s' _ inv hs => inv.step hs.2 hs.1
  have empty (b : RateKey) : s.obtained config b = [] := by rw [obtained, hs.2]; rfl
  have absent (b : RateKey) : (s.cell b).newest = none := by rw [RateState.cell, hs.1]; rfl
  exact {
    past := by rw [hs.2]; exact fun _ mem => by cases mem
    counted := by rw [hs.2]; exact fun _ mem => by cases mem
    purged := by rw [hs.2]; exact fun _ mem => by cases mem
    expires := fun b row hrow => by rw [absent] at hrow; cases hrow
    stored := fun b _ => by rw [empty, storedCount, absent]; rfl
    numbered := fun b => by rw [empty]; exact .refl _ }

/-- A bucket that lives no more gets no count. -/
theorem obtained_of_not_live (h : ((system config).restrict (Timely config)).Reachable s)
    (steps : ((system config).restrict (Timely config)).Steps s s') (b : RateKey)
    (dead : ¬ s.Live config b) : s'.obtained config b = s.obtained config b := by
  let G (s s' : RateState) : Prop := ¬ s.Live config b →
    ¬ s'.Live config b ∧ s'.obtained config b = s.obtained config b
  have trans (s t u : RateState) (first : G s t) (second : G t u) : G s u := fun dead =>
    ⟨(second (first dead).1).1, ((second (first dead).1).2).trans (first dead).2⟩
  suffices run : G s s' from (run dead).2
  refine h.guarantee (G := G) (fun s dead => ⟨dead, rfl⟩) trans ?_ steps
  rintro s label s' - ⟨timely, hs⟩ dead
  have dead' (clock : s'.clock = s.clock) : ¬ s'.Live config b := by rwa [Live, clock]
  cases label with
  | tick clock =>
    obtain ⟨later, moved⟩ := Option.ite_none_right_eq_some.1 hs
    cases moved
    exact ⟨fun live => dead (lt_of_le_of_lt later live), rfl⟩
  | arrive request =>
    cases hs
    exact ⟨dead, by simp [obtained, RateCall.countFor]⟩
  | increment i =>
    obtain ⟨call, b', limit, hcall, next, clock, -, calls⟩ := increment_cases hs
    refine ⟨dead' clock, (obtained_increment hcall next calls).2 b ?_⟩
    rintro rfl
    have soon := timely call hcall
    have late := config.lt_windowStart_add call.now
    rw [Live, config.windowStartedAt_of_mem (List.mem_of_getElem? next)] at dead
    omega
  | purge i =>
    obtain ⟨call, hcall, -, clock, -, calls⟩ := purge_cases hs
    exact ⟨dead' clock, @obtained_set _ s s' i call { call with purged := true } hcall (fun _ => rfl) calls b⟩
  | commit i =>
    obtain ⟨call, hcall, -, clock, -, calls⟩ := commit_cases hs
    exact ⟨dead' clock,
      @obtained_set _ s s' i call { call with committed := true } hcall (fun _ => rfl) calls b⟩

end RateState

/-! ## What the limits guarantee -/

theorem countP_range' (limit n : Nat) :
    (List.range' 1 n).countP (fun k => decide (k ≤ limit)) = min limit n := by
  induction n with
  | zero => simp
  | succ n ih =>
    rw [List.range'_1_concat, List.countP_append, ih, List.countP_singleton]
    split_ifs with le <;> rw [decide_eq_true_eq] at le <;> omega

namespace RateState

variable {config : RateConfig} {s : RateState}

/-- The calls that ask a bucket have got a count or wait for one. -/
theorem countP_asks (s : RateState) (b : RateKey) :
    s.calls.countP (RateCall.asks config b) =
      (s.obtained config b).length + s.calls.countP (RateCall.waits config b) := by
  unfold obtained
  induction s.calls with
  | nil => rfl
  | cons call calls ih =>
    rw [List.countP_cons, List.countP_cons, List.filterMap_cons, ih]
    cases got : call.countFor config b with
    | none => simp [RateCall.waits, got, Nat.add_assoc]
    | some n =>
      simp [RateCall.waits, got, RateCall.asks_of_countFor got]
      omega

/-- A call that has committed has got a count from each of its buckets. -/
theorem Inv.countFor (inv : s.Inv config) {call : RateCall} (mem : call ∈ s.calls)
    (committed : call.committed = true) {b : RateKey} {limit : Nat}
    (check : (b, limit) ∈ config.buckets call.request call.now) :
    ∃ n, call.countFor config b = some n ∧
      ((b, limit), n) ∈ (config.buckets call.request call.now).zip call.counts := by
  have enough := inv.counted call mem (inv.purged call mem committed)
  obtain ⟨k, lt, at_k⟩ := List.mem_iff_getElem.1 check
  have in_counts : k < call.counts.length := by
    rw [RateCall.keys, List.length_map] at enough
    omega
  have in_zip : ((b, limit), call.counts[k]) ∈
      (config.buckets call.request call.now).zip call.counts := by
    refine List.mem_iff_getElem.2 ⟨k, by rw [List.length_zip]; omega, ?_⟩
    rw [List.getElem_zip, at_k]
  refine ⟨call.counts[k], Dict.get_of_mem ?_ ?_, in_zip⟩
  · rw [List.map_fst_zip enough]
    exact config.buckets_nodup call.request call.now
  · rw [RateCall.keys, List.zip_map_left]
    exact List.mem_map.2 ⟨_, in_zip, rfl⟩

/-- How many calls got a count within the limit. -/
theorem Inv.countP_within (inv : s.Inv config) (b : RateKey) (limit : Nat) :
    s.calls.countP (fun call => (call.countFor config b).any fun n => n ≤ limit) =
      min limit (s.obtained config b).length := by
  rw [← countP_range' limit, ← (inv.numbered b).countP_eq, obtained, List.countP_filterMap]
  refine List.countP_congr fun call _ => ?_
  cases call.countFor config b <;> simp

/-- The call was accepted, and its limit for the bucket is at most `limit`. -/
def acceptedWithin (config : RateConfig) (b : RateKey) (limit : Nat) (call : RateCall) : Bool :=
  call.accepted config &&
    (config.buckets call.request call.now).any fun e => decide (e.1 = b) && decide (e.2 ≤ limit)

/-- `Timely`, to be checked step by step. -/
def timely (config : RateConfig) (s : RateState) : RateLabel → Bool
  | .increment i | .purge i => (s.calls[i]?).all fun call => s.clock < call.now + config.window
  | _ => true

theorem timely_sound {config : RateConfig} (s : RateState) (label : RateLabel)
    (h : timely config s label = true) : Timely config s label := by
  cases label with
  | increment i | purge i =>
    intro call hcall
    rwa [timely, Option.mem_def.1 hcall, Option.all_some, decide_eq_true_eq] at h
  | _ => trivial

/-- What a bucket guarantees: as long as it lives it has counted the calls of its window, apart from
those that have not counted yet; no more calls are accepted than the limit allows, and where the calls
check nothing else exactly as many; and once a purge has removed it, it gets no count any more. -/
structure Limits (config : RateConfig) (s : RateState) (b : RateKey) : Prop where
  stored : s.Live config b → s.storedCount b + s.calls.countP (RateCall.waits config b) =
    s.calls.countP (RateCall.asks config b)
  atMost : ∀ limit, s.calls.countP (acceptedWithin config b limit) ≤ limit
  exactly : ∀ limit,
    (∀ call ∈ s.calls, call.asks config b = true →
      call.committed = true ∧ config.buckets call.request call.now = [(b, limit)]) →
    s.calls.countP (fun call => call.asks config b && call.accepted config) =
      min limit (s.calls.countP (RateCall.asks config b))
  kept : ∀ i s' s'', ((system config).restrict (Timely config)).Step s (.purge i) s' →
    ((system config).restrict (Timely config)).Steps s' s'' →
    (s.cell b).newest ≠ none → (s'.cell b).newest = none →
    s''.obtained config b = s.obtained config b

/-- The limits hold in every run. -/
theorem rate_limits_hold (h : ((system config).restrict (Timely config)).Reachable s) (b : RateKey) :
    Limits config s b := by
  have inv := inv_of_reachable h
  constructor
  · intro live
    rw [inv.stored b live, countP_asks]
  · intro limit
    refine le_trans (List.countP_mono_left fun call mem within => ?_)
      ((inv.countP_within b limit).trans_le (Nat.min_le_left _ _))
    obtain ⟨accepted, small⟩ := Bool.and_eq_true_iff.1 within
    obtain ⟨committed, counts⟩ := Bool.and_eq_true_iff.1 accepted
    obtain ⟨⟨b', limit'⟩, check, same⟩ := List.any_eq_true.1 small
    simp only [Bool.and_eq_true, decide_eq_true_eq] at same
    obtain ⟨rfl, le⟩ := same
    obtain ⟨n, got, pair⟩ := inv.countFor mem committed check
    have fits : n ≤ limit' := of_decide_eq_true (List.all_eq_true.1 counts _ pair)
    rw [got]
    exact decide_eq_true (fits.trans le)
  · intro limit only
    have none_waits : s.calls.countP (RateCall.waits config b) = 0 := by
      refine List.countP_eq_zero.2 fun call mem waits => ?_
      obtain ⟨asks, none⟩ := Bool.and_eq_true_iff.1 waits
      obtain ⟨committed, buckets⟩ := only call mem asks
      obtain ⟨n, got, -⟩ := inv.countFor mem committed (buckets ▸ List.mem_singleton_self _)
      rw [got] at none
      cases none
    rw [countP_asks, none_waits, Nat.add_zero, ← inv.countP_within b limit]
    refine List.countP_congr fun call mem => ?_
    by_cases asks : call.asks config b = true
    · obtain ⟨committed, buckets⟩ := only call mem asks
      obtain ⟨n, got, pair⟩ := inv.countFor mem committed (buckets ▸ List.mem_singleton_self _)
      rw [buckets] at pair
      rw [asks, got, RateCall.accepted, committed, buckets]
      cases counts : call.counts with
      | nil =>
        rw [counts] at pair
        cases pair
      | cons k rest =>
        rw [counts, List.zip_cons_cons, List.zip_nil_left, List.mem_singleton] at pair
        cases pair
        simp
    · have none : call.countFor config b = none := by
        cases got : call.countFor config b with
        | none => rfl
        | some n => exact absurd (RateCall.asks_of_countFor got) asks
      simp [asks, none]
  · intro i s' s'' first later present gone
    obtain ⟨timely, purged⟩ := first
    obtain ⟨call, hcall, -, clock, newest, calls⟩ := purge_cases purged
    have reachable : ((system config).restrict (Timely config)).Reachable s' :=
      h.step (i := .purge i) ⟨timely, purged⟩
    rcases newest b with same | ⟨-, row, hrow, expired⟩
    · exact absurd (same ▸ gone) present
    · have dead : ¬ s'.Live config b := by
        have := inv.expires b row hrow
        have := inv.past call (List.mem_of_getElem? hcall)
        rw [Live, clock]
        omega
      rw [obtained_of_not_live reachable later b dead]
      exact @obtained_set _ s s' i call { call with purged := true } hcall (fun _ => rfl) calls b

/-- A window of a minute, with a readable key. -/
def sampleConfig : RateConfig where
  rateLimitWindowSeconds := 60
  pos := by decide
  hmac := id
  casefold := id

/-- Two calls of one client within a window, the second one before the first one has committed. -/
def sampleRun : List RateLabel :=
  let request : RateRequest := { scope := "login", source := "10.0.0.1", sourceLimit := 1 }
  [.tick 61000000, .arrive request, .arrive request, .increment 0, .purge 0, .tick 62000000, .commit 0,
    .increment 1, .purge 1, .commit 1]

theorem rate_limits_of_sample :
    ∃ s, run (step sampleConfig) { clock := 0 } sampleRun = some s ∧
      s.calls.map (RateCall.accepted sampleConfig) = [true, false] ∧
      Limits sampleConfig s ⟨"login:source", "login:source:10.0.0.1", 60000000⟩ := by
  have outcome : (run (checked (timely sampleConfig) (step sampleConfig)) { clock := 0 } sampleRun).map
      (fun s => s.calls.map (RateCall.accepted sampleConfig)) = some [true, false] := by decide +kernel
  obtain ⟨s, good, accepted⟩ := Option.map_eq_some_iff.1 outcome
  refine ⟨s, run_of_checked good, accepted, rate_limits_hold ?_ _⟩
  exact ⟨{ clock := 0 }, ⟨rfl, rfl⟩, restrict_steps_of_checked timely_sound good⟩

end RateState

end DataMover
