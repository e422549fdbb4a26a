import DataMover.Runs.State
import DataMover.Transition

/-!
# The email outbox

A message has its content and outcome in `email_outbox` and its schedule and claim in
`email_delivery_state`.  A deliverer claims a batch, counts an attempt, invokes the transport outside
of any transaction and writes the outcome if the claim is still its own; claims expire by time, and an
operator can reset a dead letter.  What a step does to one message (`Email.Move`) gives the invariants
of all interleavings.
-/

namespace DataMover

open Transition

/-- The settings of the mailer, with the bounds of their fields. -/
structure EmailSettings where
  maxAttempts : Nat
  retryBaseSeconds : Nat
  retryMaxSeconds : Nat
  claimTimeoutSeconds : Nat
  redactSentBodies : Bool
  one_le_maxAttempts : 1 ≤ maxAttempts

/-- A row of `email_outbox`. -/
structure EmailOutbox where
  id : String
  recipient : String
  subject : String
  bodyText : String
  sentAt : Option Time := none
  failedAt : Option Time := none
  attempts : Nat := 0
  lastError : String := ""
deriving DecidableEq

/-- The row of `email_delivery_state` of a message. -/
structure EmailDeliveryState where
  nextAttemptAt : Time
  claimToken : Option Nat := none
  claimedAt : Option Time := none
deriving DecidableEq

/-- A message with its two rows, the invocations of the transport since its last reset, and the
number of its resets. -/
structure Email where
  message : EmailOutbox
  delivery : EmailDeliveryState
  invocations : Nat := 0
  resets : Nat := 0
deriving DecidableEq

namespace Email

variable (settings : EmailSettings) (now : Time) (row : Email)

/-- The message is neither sent nor dead-lettered. -/
def live : Bool := row.message.sentAt.isNone && row.message.failedAt.isNone

/-- The `where` clause of `_claim_pending`. -/
def claimable : Bool :=
  row.live && decide (row.delivery.nextAttemptAt ≤ now) &&
    (row.delivery.claimToken.isNone ||
      row.delivery.claimedAt.any fun t => decide (t ≤ now - seconds settings.claimTimeoutSeconds))

/-- The claim `token` is current and the message has no outcome. -/
def heldBy (token : Nat) : Bool := row.live && row.delivery.claimToken == some token

def claim (token : Nat) : Email :=
  { row with delivery := { row.delivery with claimToken := some token, claimedAt := some now } }

def countAttempt : Email :=
  { row with message := { row.message with attempts := row.message.attempts + 1 } }

def invoke : Email := { row with invocations := row.invocations + 1 }

/-- The delay after a failed attempt. -/
def retryDelay (settings : EmailSettings) (attempt : Nat) : Time :=
  seconds (min (settings.retryBaseSeconds * 2 ^ (attempt - 1)) settings.retryMaxSeconds : Nat)

/-- The branch of a handled error. -/
def fail (attempt : Nat) (error : String) : Email :=
  { row with
    message := { row.message with
      lastError := error
      failedAt := if settings.maxAttempts ≤ attempt then some now else row.message.failedAt }
    delivery := {
      nextAttemptAt := if settings.maxAttempts ≤ attempt then row.delivery.nextAttemptAt
        else now + retryDelay settings attempt
      claimToken := none
      claimedAt := none } }

/-- The branch without an error. -/
def succeed : Email :=
  { row with
    message := { row.message with
      sentAt := some now
      lastError := ""
      bodyText := if settings.redactSentBodies then "[redacted after delivery]"
        else row.message.bodyText }
    delivery := { row.delivery with claimToken := none, claimedAt := none } }

/-- The final write. -/
def settle (attempt : Nat) : Option String → Email
  | some error => row.fail settings now attempt error
  | none => row.succeed settings now

/-- The `where` clause of `retry_failed`. -/
def retriable (messageId : Option String) : Bool :=
  row.message.failedAt.isSome && row.message.sentAt.isNone &&
    messageId.all fun id => id == "" || row.message.id == id

def retry : Email where
  message := { row.message with failedAt := none, lastError := "", attempts := 0 }
  delivery := { nextAttemptAt := now, claimToken := none, claimedAt := none }
  invocations := 0
  resets := row.resets + 1

end Email

/-! ## Deliverers -/

/-- Where a deliverer is with the claim that it took from its batch. -/
inductive DeliveryPhase where
  | idle
  /-- The attempt was counted, the transport was not invoked yet. -/
  | sending (row token attempt resets : Nat)
  /-- The transport returned, or raised a handled error. -/
  | finishing (row token attempt : Nat) (error : Option String)
deriving DecidableEq

/-- The claim that the deliverer works on. -/
def DeliveryPhase.claim : DeliveryPhase → Option (Nat × Nat)
  | .idle => none
  | .sending i token _ _ => some (i, token)
  | .finishing i token _ _ => some (i, token)

/-- The claims that a deliverer has not started yet, by the positions of their messages. -/
structure Deliverer where
  claims : List (Nat × Nat) := []
  phase : DeliveryPhase := .idle
deriving DecidableEq

/-- The claims of a deliverer, with the one that it works on. -/
def Deliverer.inHand (d : Deliverer) : List (Nat × Nat) := d.phase.claim.toList ++ d.claims

/-- The tables, the deliverers, and to whom each claim token was given. -/
structure Outbox where
  rows : List Email := []
  deliverers : List Deliverer := []
  issued : List Nat := []
deriving DecidableEq

/-- What the transport does. -/
inductive TransportOutcome where
  | success
  | handled (error : String)
  | unhandled
deriving DecidableEq

inductive OutboxStep where
  | queueEmail (id recipient subject bodyText : String) (now : Time)
  /-- `locked` are the rows that `skip_locked` skips. -/
  | claimPending (now : Time) (limit : Nat) (locked : Nat → Bool)
  | increment (j : Nat)
  | send (j : Nat) (outcome : TransportOutcome)
  | finish (j : Nat) (now : Time)
  | crash (j : Nat)
  | retryFailed (messageId : Option String) (limit : Nat) (locked : Nat → Bool) (now : Time)

namespace Outbox

variable (settings : EmailSettings) (s : Outbox)

/-- `queue_email`. -/
def queueEmail (id recipient subject bodyText : String) (now : Time) : Email where
  message := { id := id, recipient := recipient, subject := subject, bodyText := bodyText }
  delivery := { nextAttemptAt := now }

/-- The positions of the first `limit` rows in the order of a query. -/
def select (keep : Email → Bool) (order : Email → Email → Bool) (limit : Nat)
    (locked : Nat → Bool) : List Nat :=
  (((s.rows.zipIdx.filter fun e => keep e.1 && !locked e.2).insertionSort
    fun a b => order a.1 b.1 = true).take limit).map Prod.snd

/-- `order_by(next_attempt_at, message_id)`. -/
def dueOrder (a b : Email) : Bool :=
  decide (a.delivery.nextAttemptAt < b.delivery.nextAttemptAt) ||
    a.delivery.nextAttemptAt == b.delivery.nextAttemptAt &&
      decide (a.message.id ≤ b.message.id)

/-- `order_by(failed_at, id)`. -/
def failedOrder (a b : Email) : Bool :=
  let time (e : Email) := e.message.failedAt.getD 0
  decide (time a < time b) || time a == time b && decide (a.message.id ≤ b.message.id)

/-- The rows that `_claim_pending` selects. -/
def pending (now : Time) (limit : Nat) (locked : Nat → Bool) : List Nat :=
  s.select (·.claimable settings now) dueOrder limit locked

/-- `_claim_pending`. -/
def claimPending (now : Time) (limit : Nat) (locked : Nat → Bool) : Outbox :=
  let claims := (s.pending settings now limit locked).zipIdx s.issued.length
  { rows := s.rows.mapIdx fun i row => match claims.lookup i with
      | some token => row.claim now token
      | none => row
    deliverers := s.deliverers ++ [{ claims := claims }]
    issued := s.issued ++ claims.map fun _ => s.deliverers.length }

/-- `_deliver_claim` up to its first commit. -/
def increment (j : Nat) : Option Outbox :=
  s.deliverers[j]?.bind fun d =>
    match d.phase, d.claims with
    | .idle, (i, token) :: claims => s.rows[i]?.map fun row =>
      if row.heldBy token then
        { s with
          rows := s.rows.set i row.countAttempt
          deliverers := s.deliverers.set j
            ⟨claims, .sending i token (row.message.attempts + 1) row.resets⟩ }
      else { s with deliverers := s.deliverers.set j ⟨claims, .idle⟩ }
    | _, _ => none

/-- The call of the transport; an unhandled exception ends the deliverer. -/
def send (j : Nat) (outcome : TransportOutcome) : Option Outbox :=
  s.deliverers[j]?.bind fun d =>
    match d.phase with
    | .sending i token attempt _ =>
      let next : Deliverer := match outcome with
        | .success => ⟨d.claims, .finishing i token attempt none⟩
        | .handled error => ⟨d.claims, .finishing i token attempt (some (error.take 2000).toString)⟩
        | .unhandled => {}
      some { s with
        rows := s.rows.modify i Email.invoke
        deliverers := s.deliverers.set j next }
    | _ => none

/-- The refresh, the check of the claim and the final write. -/
def finish (j : Nat) (now : Time) : Option Outbox :=
  s.deliverers[j]?.bind fun d =>
    match d.phase with
    | .finishing i token attempt error => s.rows[i]?.map fun row =>
      let s := { s with deliverers := s.deliverers.set j ⟨d.claims, .idle⟩ }
      if row.heldBy token then
        { s with rows := s.rows.set i (row.settle settings now attempt error) }
      else s
    | _ => none

/-- `retry_failed`. -/
def retryFailed (messageId : Option String) (limit : Nat) (locked : Nat → Bool) (now : Time) :
    Outbox :=
  let selected := s.select (·.retriable messageId) failedOrder limit locked
  { s with rows := s.rows.mapIdx fun i row => if i ∈ selected then row.retry now else row }

/-- One step; `none` when it cannot be taken now. -/
def step : OutboxStep → Option Outbox
  | .queueEmail id recipient subject bodyText now =>
    some { s with rows := s.rows ++ [queueEmail id recipient subject bodyText now] }
  | .claimPending now limit locked => some (s.claimPending settings now limit locked)
  | .increment j => s.increment j
  | .send j outcome => s.send j outcome
  | .finish j now => s.finish settings j now
  | .crash j => if j < s.deliverers.length then
      some { s with deliverers := s.deliverers.set j {} } else none
  | .retryFailed messageId limit locked now => some (s.retryFailed messageId limit locked now)

/-- The claim under which a step reads and writes. -/
def acting : OutboxStep → Option (Nat × Nat)
  | .increment j => s.deliverers[j]?.bind fun d => d.claims.head?
  | .send j _ => s.deliverers[j]?.bind fun d => d.phase.claim
  | .finish j _ => s.deliverers[j]?.bind fun d => d.phase.claim
  | _ => none

/-- Any number of deliverers, crashes and operators over an empty outbox. -/
def system : System Outbox OutboxStep := .ofStep (step settings) (· = {})

end Outbox

/-! ## What a step does to a message -/

/-- What a step does to the message at the position `i`. -/
inductive Email.Move (settings : EmailSettings) (s : Outbox) (i : Nat) (row : Email) :
    OutboxStep → Email → Prop
  | same {l : OutboxStep} : Move settings s i row l row
  | claimed {now : Time} {limit : Nat} {locked : Nat → Bool} {token : Nat}
    (selected : i ∈ s.pending settings now limit locked)
    (claimable : row.claimable settings now = true) (fresh : s.issued.length ≤ token)
    (issued : token < (s.claimPending settings now limit locked).issued.length) :
    Move settings s i row (.claimPending now limit locked) (row.claim now token)
  | counted {j token : Nat} {claims : List (Nat × Nat)}
    (owner : s.deliverers[j]? = some ⟨(i, token) :: claims, .idle⟩)
    (held : row.heldBy token = true) : Move settings s i row (.increment j) row.countAttempt
  | invoked {j token attempt resets : Nat} {claims : List (Nat × Nat)} {outcome : TransportOutcome}
    (owner : s.deliverers[j]? = some ⟨claims, .sending i token attempt resets⟩) :
    Move settings s i row (.send j outcome) row.invoke
  | failed {j token attempt : Nat} {claims : List (Nat × Nat)} {error : String} {now : Time}
    (owner : s.deliverers[j]? = some ⟨claims, .finishing i token attempt (some error)⟩)
    (held : row.heldBy token = true) :
    Move settings s i row (.finish j now) (row.fail settings now attempt error)
  | succeeded {j token attempt : Nat} {claims : List (Nat × Nat)} {now : Time}
    (owner : s.deliverers[j]? = some ⟨claims, .finishing i token attempt none⟩)
    (held : row.heldBy token = true) :
    Move settings s i row (.finish j now) (row.succeed settings now)
  | retried {messageId : Option String} {limit : Nat} {locked : Nat → Bool} {now : Time}
    (dead : row.message.failedAt ≠ none) (unsent : row.message.sentAt = none) :
    Move settings s i row (.retryFailed messageId limit locked now) (row.retry now)

namespace Outbox

variable {settings : EmailSettings} {s s' : Outbox} {l : OutboxStep}

/-- What a query selects satisfies its condition. -/
theorem of_mem_select {keep : Email → Bool} {order : Email → Email → Bool} {limit i : Nat}
    {locked : Nat → Bool} (h : i ∈ s.select keep order limit locked) :
    ∃ row, s.rows[i]? = some row ∧ keep row = true := by
  obtain ⟨⟨row, k⟩, mem, rfl⟩ := List.mem_map.1 h
  have sorted := List.mem_of_mem_take mem
  rw [(List.perm_insertionSort _ _).mem_iff, List.mem_filter, Bool.and_eq_true] at sorted
  exact ⟨row, List.mem_zipIdx_iff_getElem?.1 sorted.1, sorted.2.1⟩

/-- A claim of the new batch is of a claimable message, under a new token. -/
theorem of_lookup_zipIdx {xs : List Nat} {n i token : Nat}
    (h : (xs.zipIdx n).lookup i = some token) : i ∈ xs ∧ n ≤ token ∧ token < n + xs.length := by
  induction xs generalizing n with
  | nil => cases h
  | cons x xs ih =>
    rw [List.zipIdx_cons, List.lookup_cons] at h
    by_cases same : i = x
    · subst same
      simp only [beq_self_eq_true] at h
      cases h
      simp
    · simp only [beq_eq_false_iff_ne.2 same] at h
      obtain ⟨mem, low, high⟩ := ih h
      rw [List.length_cons]
      exact ⟨List.mem_cons_of_mem x mem, by omega, by omega⟩

/-- The rows of a table of which one was rewritten. -/
theorem getElem?_set_row {rows : List Email} {i k : Nat} {row new : Email}
    (h : rows[k]? = some row) : (rows.set i new)[k]? = some (if i = k then new else row) := by
  obtain ⟨bound, -⟩ := List.getElem?_eq_some_iff.1 h
  split_ifs with same
  · rw [same]
    exact List.getElem?_set_self bound
  · rw [List.getElem?_set_ne same, h]

theorem increment_cases {j : Nat} (h : s.increment j = some s') :
    ∃ i token claims row, s.deliverers[j]? = some ⟨(i, token) :: claims, .idle⟩ ∧
      s.rows[i]? = some row ∧
      (row.heldBy token = true ∧ s' = { s with
          rows := s.rows.set i row.countAttempt
          deliverers := s.deliverers.set j
            ⟨claims, .sending i token (row.message.attempts + 1) row.resets⟩ } ∨
        row.heldBy token = false ∧
          s' = { s with deliverers := s.deliverers.set j ⟨claims, .idle⟩ }) := by
  obtain ⟨⟨claims, phase⟩, hj, h⟩ := Option.bind_eq_some_iff.1 h
  dsimp only at h
  split at h
  · rename_i i token claims
    obtain ⟨row, hi, rfl⟩ := Option.map_eq_some_iff.1 h
    refine ⟨i, token, claims, row, hj, hi, ?_⟩
    cases held : row.heldBy token with
    | true => exact .inl ⟨rfl, rfl⟩
    | false => exact .inr ⟨rfl, rfl⟩
  · cases h

theorem send_cases {j : Nat} {outcome : TransportOutcome} (h : s.send j outcome = some s') :
    ∃ claims i token attempt resets next,
      s.deliverers[j]? = some ⟨claims, .sending i token attempt resets⟩ ∧
      (next = {} ∨ ∃ error, next = ⟨claims, .finishing i token attempt error⟩) ∧
      s' = { s with
        rows := s.rows.modify i Email.invoke
        deliverers := s.deliverers.set j next } := by
  obtain ⟨⟨claims, phase⟩, hj, h⟩ := Option.bind_eq_some_iff.1 h
  cases phase with
  | sending i token attempt resets =>
    cases h
    refine ⟨claims, i, token, attempt, resets, _, hj, ?_, rfl⟩
    cases outcome with
    | success => exact .inr ⟨none, rfl⟩
    | handled error => exact .inr ⟨_, rfl⟩
    | unhandled => exact .inl rfl
  | _ => cases h

theorem finish_cases {j : Nat} {now : Time} (h : s.finish settings j now = some s') :
    ∃ claims i token attempt error row,
      s.deliverers[j]? = some ⟨claims, .finishing i token attempt error⟩ ∧
      s.rows[i]? = some row ∧
      s'.deliverers = s.deliverers.set j ⟨claims, .idle⟩ ∧ s'.issued = s.issued ∧
      (row.heldBy token = true ∧
          s'.rows = s.rows.set i (row.settle settings now attempt error) ∨
        row.heldBy token = false ∧ s'.rows = s.rows) := by
  obtain ⟨⟨claims, phase⟩, hj, h⟩ := Option.bind_eq_some_iff.1 h
  cases phase with
  | finishing i token attempt error =>
    obtain ⟨row, hi, rfl⟩ := Option.map_eq_some_iff.1 h
    refine ⟨claims, i, token, attempt, error, row, hj, hi, ?_⟩
    cases held : row.heldBy token with
    | true => exact ⟨rfl, rfl, .inl ⟨rfl, rfl⟩⟩
    | false => exact ⟨rfl, rfl, .inr ⟨rfl, rfl⟩⟩
  | _ => cases h

/-- A step moves every message of the outbox. -/
theorem step_move (h : s.step settings l = some s') {i : Nat} {row : Email}
    (hi : s.rows[i]? = some row) :
    ∃ row', s'.rows[i]? = some row' ∧ row.Move settings s i l row' := by
  cases l with
  | queueEmail id recipient subject bodyText now =>
    cases h
    obtain ⟨bound, -⟩ := List.getElem?_eq_some_iff.1 hi
    exact ⟨row, by rw [List.getElem?_append_left bound, hi], .same⟩
  | claimPending now limit locked =>
    cases h
    simp only [claimPending, List.getElem?_mapIdx, hi, Option.map_some]
    refine ⟨_, rfl, ?_⟩
    split
    · rename_i token found
      obtain ⟨mem, fresh, issued⟩ := of_lookup_zipIdx found
      obtain ⟨row', hr, claimable⟩ := of_mem_select mem
      rw [hi] at hr
      cases hr
      exact .claimed mem claimable fresh (by simpa [claimPending] using issued)
    · exact .same
  | increment j =>
    obtain ⟨k, token, claims, found, hj, hk, ⟨held, rfl⟩ | ⟨-, rfl⟩⟩ := increment_cases h
    · refine ⟨_, getElem?_set_row hi, ?_⟩
      split_ifs with same
      · subst same
        rw [hi] at hk
        cases hk
        exact .counted hj held
      · exact .same
    · exact ⟨row, hi, .same⟩
  | send j outcome =>
    obtain ⟨claims, k, token, attempt, resets, next, hj, -, rfl⟩ := send_cases h
    simp only [List.getElem?_modify, hi, Option.map_eq_map, Option.map_some]
    refine ⟨_, rfl, ?_⟩
    split_ifs with same
    · subst same
      exact .invoked hj
    · exact .same
  | finish j now =>
    obtain ⟨claims, k, token, attempt, error, found, hj, hk, -, -, ⟨held, rows⟩ | ⟨-, rows⟩⟩ :=
      finish_cases h
    · rw [rows]
      refine ⟨_, getElem?_set_row hi, ?_⟩
      split_ifs with same
      · subst same
        rw [hi] at hk
        cases hk
        cases error with
        | none => exact .succeeded hj held
        | some error => exact .failed hj held
      · exact .same
    · exact ⟨row, by rw [rows, hi], .same⟩
  | crash j =>
    simp only [step] at h
    split_ifs at h
    cases h
    exact ⟨row, hi, .same⟩
  | retryFailed messageId limit locked now =>
    cases h
    simp only [retryFailed, List.getElem?_mapIdx, hi, Option.map_some]
    refine ⟨_, rfl, ?_⟩
    split_ifs with mem
    · obtain ⟨row', hr, retriable⟩ := of_mem_select mem
      rw [hi] at hr
      cases hr
      simp only [Email.retriable, Bool.and_eq_true, Option.isSome_iff_ne_none,
        Option.isNone_iff_eq_none] at retriable
      exact .retried retriable.1.1 retriable.1.2
    · exact .same

/-- A message after a step was there before, or is new. -/
theorem step_rows (h : s.step settings l = some s') {i : Nat} {row' : Email}
    (hi : s'.rows[i]? = some row') :
    (∃ row, s.rows[i]? = some row ∧ row.Move settings s i l row') ∨
      s.rows.length ≤ i ∧ ∃ id recipient subject bodyText now,
        row' = queueEmail id recipient subject bodyText now := by
  by_cases old : i < s.rows.length
  · left
    obtain ⟨row'', found, move⟩ := step_move h (List.getElem?_eq_getElem old)
    rw [hi] at found
    cases found
    exact ⟨_, List.getElem?_eq_getElem old, move⟩
  · right
    have bound := (List.getElem?_eq_some_iff.1 hi).1
    have kept : s'.rows.length = s.rows.length → False := by
      intro same
      omega
    refine ⟨by omega, ?_⟩
    cases l with
    | queueEmail id recipient subject bodyText now =>
      cases h
      rw [List.getElem?_append_right (by omega), List.getElem?_singleton] at hi
      split_ifs at hi
      exact ⟨id, recipient, subject, bodyText, now, (Option.some.inj hi).symm⟩
    | claimPending now limit locked =>
      cases h
      exact (kept (by simp [claimPending])).elim
    | increment j =>
      obtain ⟨k, token, claims, found, -, -, ⟨-, rfl⟩ | ⟨-, rfl⟩⟩ := increment_cases h
      · exact (kept (by simp)).elim
      · exact (kept rfl).elim
    | send j outcome =>
      obtain ⟨claims, k, token, attempt, resets, next, -, -, rfl⟩ := send_cases h
      exact (kept (by simp)).elim
    | finish j now =>
      obtain ⟨claims, k, token, attempt, error, found, -, -, -, -, ⟨-, rows⟩ | ⟨-, rows⟩⟩ :=
        finish_cases h
      · exact (kept (by simp [rows])).elim
      · exact (kept (by rw [rows])).elim
    | crash j =>
      simp only [step] at h
      split_ifs at h
      cases h
      exact (kept rfl).elim
    | retryFailed messageId limit locked now =>
      cases h
      exact (kept (by simp [retryFailed])).elim

/-- A deliverer after a step of which one was rewritten. -/
theorem getElem?_set_deliverer {deliverers : List Deliverer} {j k : Nat} {d new d' : Deliverer}
    (hj : deliverers[j]? = some d) (h : (deliverers.set j new)[k]? = some d')
    (less : new.inHand.Sublist d.inHand) :
    ∃ d, deliverers[k]? = some d ∧ d'.inHand.Sublist d.inHand := by
  rw [List.getElem?_set] at h
  split_ifs at h with same bound
  · cases h
    exact ⟨d, same ▸ hj, less⟩
  · exact ⟨d', h, .refl _⟩

/-- A deliverer holds the claims that it held before, or those of a new batch. -/
theorem step_deliverers (h : s.step settings l = some s') {k : Nat} {d' : Deliverer}
    (hk : s'.deliverers[k]? = some d') :
    (∃ d, s.deliverers[k]? = some d ∧ d'.inHand.Sublist d.inHand) ∨
      k = s.deliverers.length ∧ ∃ now limit locked, l = .claimPending now limit locked ∧
        d' = { claims := (s.pending settings now limit locked).zipIdx s.issued.length } := by
  cases l with
  | queueEmail id recipient subject bodyText now =>
    cases h
    exact .inl ⟨d', hk, .refl _⟩
  | claimPending now limit locked =>
    cases h
    simp only [claimPending, List.getElem?_append, List.getElem?_singleton] at hk
    split_ifs at hk with old new
    · exact .inl ⟨d', hk, .refl _⟩
    · cases hk
      exact .inr ⟨by omega, now, limit, locked, rfl, rfl⟩
  | increment j =>
    left
    obtain ⟨i, token, claims, row, hj, -, ⟨-, rfl⟩ | ⟨-, rfl⟩⟩ := increment_cases h
    · exact getElem?_set_deliverer hj hk (.refl _)
    · exact getElem?_set_deliverer hj hk (List.sublist_cons_self _ _)
  | send j outcome =>
    left
    obtain ⟨claims, i, token, attempt, resets, next, hj, rfl | ⟨error, rfl⟩, rfl⟩ := send_cases h
    · exact getElem?_set_deliverer hj hk (List.nil_sublist _)
    · exact getElem?_set_deliverer hj hk (.refl _)
  | finish j now =>
    left
    obtain ⟨claims, i, token, attempt, error, row, hj, -, deliverers, -⟩ := finish_cases h
    rw [deliverers] at hk
    exact getElem?_set_deliverer hj hk (List.sublist_cons_self _ _)
  | crash j =>
    left
    simp only [step] at h
    split_ifs at h with bound
    cases h
    exact getElem?_set_deliverer (List.getElem?_eq_getElem bound) hk (List.nil_sublist _)
  | retryFailed messageId limit locked now =>
    cases h
    exact .inl ⟨d', hk, .refl _⟩

theorem step_issued (h : s.step settings l = some s') : s.issued.length ≤ s'.issued.length := by
  cases l with
  | queueEmail id recipient subject bodyText now =>
    cases h
    exact Nat.le_refl _
  | claimPending now limit locked =>
    cases h
    simp [claimPending]
  | increment j =>
    obtain ⟨i, token, claims, row, -, -, ⟨-, rfl⟩ | ⟨-, rfl⟩⟩ := increment_cases h <;>
      exact Nat.le_refl _
  | send j outcome =>
    obtain ⟨claims, i, token, attempt, resets, next, -, -, rfl⟩ := send_cases h
    exact Nat.le_refl _
  | finish j now =>
    obtain ⟨claims, i, token, attempt, error, row, -, -, -, issued, -⟩ := finish_cases h
    rw [issued]
  | crash j =>
    simp only [step] at h
    split_ifs at h
    cases h
    exact Nat.le_refl _
  | retryFailed messageId limit locked now =>
    cases h
    exact Nat.le_refl _

end Outbox

/-! ## Safety of the outbox -/

namespace Email

variable {settings : EmailSettings} {s : Outbox} {i : Nat} {row row' : Email} {l : OutboxStep}

/-- The invariant of a message, with `issued` tokens so far. -/
structure Sound (row : Email) (issued : Nat) : Prop where
  outcome : row.message.sentAt = none ∨ row.message.failedAt = none
  claim : row.delivery.claimToken = none ↔ row.delivery.claimedAt = none
  issued : ∀ token, row.delivery.claimToken = some token → token < issued

theorem live_iff : row.live = true ↔ row.message.sentAt = none ∧ row.message.failedAt = none := by
  simp [live]

theorem heldBy_iff {token : Nat} : row.heldBy token = true ↔
    (row.message.sentAt = none ∧ row.message.failedAt = none) ∧
      row.delivery.claimToken = some token := by
  simp [heldBy, live_iff]

theorem live_of_claimable {now : Time} (h : row.claimable settings now = true) :
    row.message.sentAt = none ∧ row.message.failedAt = none := by
  simp only [claimable, Bool.and_eq_true] at h
  exact live_iff.1 h.1.1

theorem Sound.move {issued : Nat} (sound : row.Sound s.issued.length)
    (move : row.Move settings s i l row') (more : s.issued.length ≤ issued)
    (new : ∀ now limit locked, l = .claimPending now limit locked →
      (s.claimPending settings now limit locked).issued.length ≤ issued) : row'.Sound issued := by
  have old : ∀ token, row.delivery.claimToken = some token → token < issued :=
    fun token h => Nat.lt_of_lt_of_le (sound.issued token h) more
  cases move with
  | same => exact ⟨sound.outcome, sound.claim, old⟩
  | claimed selected claimable fresh issued =>
    refine ⟨sound.outcome, by simp [Email.claim], ?_⟩
    intro token h
    cases h
    exact Nat.lt_of_lt_of_le issued (new _ _ _ rfl)
  | counted owner held => exact ⟨sound.outcome, sound.claim, old⟩
  | invoked owner => exact ⟨sound.outcome, sound.claim, old⟩
  | failed owner held => exact ⟨.inl (heldBy_iff.1 held).1.1, by simp [fail], by simp [fail]⟩
  | succeeded owner held => exact ⟨.inr (heldBy_iff.1 held).1.2, by simp [succeed], by simp [succeed]⟩
  | retried dead unsent => exact ⟨.inl unsent, by simp [retry], by simp [retry]⟩

/-- A sent message keeps its rows. -/
theorem Move.of_sent (sent : row.message.sentAt ≠ none) (move : row.Move settings s i l row') :
    row'.message = row.message ∧ row'.delivery = row.delivery := by
  cases move with
  | same => exact ⟨rfl, rfl⟩
  | claimed selected claimable => exact absurd (live_of_claimable claimable).1 sent
  | counted owner held => exact absurd (heldBy_iff.1 held).1.1 sent
  | invoked owner => exact ⟨rfl, rfl⟩
  | failed owner held => exact absurd (heldBy_iff.1 held).1.1 sent
  | succeeded owner held => exact absurd (heldBy_iff.1 held).1.1 sent
  | retried dead unsent => exact absurd unsent sent

/-- A token that is not current is not taken up again. -/
theorem Move.superseded {token : Nat} (issued : token < s.issued.length)
    (superseded : row.delivery.claimToken ≠ some token) (move : row.Move settings s i l row') :
    row'.delivery.claimToken ≠ some token := by
  cases move with
  | claimed selected claimable fresh =>
    intro same
    cases same
    omega
  | failed owner held => exact Option.some_ne_none token |>.symm
  | succeeded owner held => exact Option.some_ne_none token |>.symm
  | retried dead unsent => exact Option.some_ne_none token |>.symm
  | _ => exact superseded

/-- A message without an outcome can be claimed from some time on. -/
theorem Sound.claimable {issued : Nat} (sound : row.Sound issued)
    (unsent : row.message.sentAt = none) (alive : row.message.failedAt = none) :
    ∃ t, ∀ now, t ≤ now → row.claimable settings now = true := by
  have live := live_iff.2 ⟨unsent, alive⟩
  cases claimed : row.delivery.claimedAt with
  | none =>
    refine ⟨row.delivery.nextAttemptAt, fun now due => ?_⟩
    simp [Email.claimable, live, sound.claim.2 claimed, due]
  | some t =>
    refine ⟨max row.delivery.nextAttemptAt (t + seconds settings.claimTimeoutSeconds),
      fun now due => ?_⟩
    have due' : row.delivery.nextAttemptAt ≤ now := Int.le_trans (Int.le_max_left _ _) due
    have stale : t + seconds settings.claimTimeoutSeconds ≤ now :=
      Int.le_trans (Int.le_max_right _ _) due
    have stale' : t ≤ now - seconds settings.claimTimeoutSeconds := Int.le_sub_right_of_add_le stale
    simp [Email.claimable, live, claimed, due', stale']

end Email

namespace Outbox

variable {settings : EmailSettings} {s s' : Outbox} {l : OutboxStep}

/-- The invariant of the outbox. -/
structure Sound (s : Outbox) : Prop where
  rows : ∀ (i : Nat) row, s.rows[i]? = some row → row.Sound s.issued.length
  inHand : ∀ (j : Nat) d, s.deliverers[j]? = some d → ∀ e ∈ d.inHand, e.2 < s.issued.length

theorem Sound.step (sound : s.Sound) (h : s.step settings l = some s') : s'.Sound where
  rows i row' hi := by
    have more := step_issued h
    rcases step_rows h hi with ⟨row, hr, move⟩ | ⟨-, id, recipient, subject, bodyText, now, rfl⟩
    · refine (sound.rows i row hr).move move more ?_
      rintro now limit locked rfl
      cases h
      exact Nat.le_refl _
    · exact ⟨.inl rfl, ⟨fun _ => rfl, fun _ => rfl⟩, fun token h => by cases h⟩
  inHand j d' hj e he := by
    rcases step_deliverers h hj with ⟨d, hd, less⟩ | ⟨-, now, limit, locked, rfl, rfl⟩
    · exact Nat.lt_of_lt_of_le (sound.inHand j d hd e (less.subset he)) (step_issued h)
    · cases h
      have mem : e ∈ (s.pending settings now limit locked).zipIdx s.issued.length := by
        simpa [Deliverer.inHand, DeliveryPhase.claim] using he
      have bound := List.snd_lt_add_of_mem_zipIdx mem
      simpa [claimPending, Nat.add_comm] using bound

theorem sound (h : (system settings).Reachable s) : s.Sound := by
  refine h.invariant (I := Sound) ?_ fun _ _ _ _ inv hs => inv.step hs
  rintro s rfl
  refine ⟨?_, ?_⟩
  · intro i row h
    cases h
  · intro j d h
    cases h

/-- Along a run a sent message keeps its rows. -/
theorem sent_steps (h : (system settings).Reachable s) (hs : (system settings).Steps s s')
    {i : Nat} {row : Email} (hi : s.rows[i]? = some row) (sent : row.message.sentAt ≠ none) :
    ∃ row', s'.rows[i]? = some row' ∧ row'.message = row.message ∧
      row'.delivery = row.delivery := by
  refine h.guarantee (G := fun s s' => (∃ row', s.rows[i]? = some row' ∧
      row'.message = row.message ∧ row'.delivery = row.delivery) →
    ∃ row', s'.rows[i]? = some row' ∧ row'.message = row.message ∧ row'.delivery = row.delivery)
    ?_ ?_ ?_ hs ⟨row, hi, rfl, rfl⟩
  · exact fun s held => held
  · exact fun s t u first second held => second (first held)
  · rintro s l s' - hs ⟨row₁, h₁, message, delivery⟩
    obtain ⟨row₂, h₂, move⟩ := step_move hs h₁
    obtain ⟨message', delivery'⟩ := move.of_sent (message ▸ sent)
    exact ⟨row₂, h₂, message'.trans message, delivery'.trans delivery⟩

/-- Along a run a superseded claim stays superseded. -/
theorem superseded_steps (h : (system settings).Reachable s) (hs : (system settings).Steps s s')
    {i token : Nat} {row : Email} (hi : s.rows[i]? = some row) (issued : token < s.issued.length)
    (superseded : row.delivery.claimToken ≠ some token) :
    ∃ row', s'.rows[i]? = some row' ∧ row'.delivery.claimToken ≠ some token := by
  refine (h.guarantee (G := fun s s' => (token < s.issued.length ∧ ∃ row', s.rows[i]? = some row' ∧
      row'.delivery.claimToken ≠ some token) →
    token < s'.issued.length ∧ ∃ row', s'.rows[i]? = some row' ∧
      row'.delivery.claimToken ≠ some token) ?_ ?_ ?_ hs ⟨issued, row, hi, superseded⟩).2
  · exact fun s held => held
  · exact fun s t u first second held => second (first held)
  · rintro s l s' - hs ⟨issued, row₁, h₁, superseded⟩
    obtain ⟨row₂, h₂, move⟩ := step_move hs h₁
    exact ⟨Nat.lt_of_lt_of_le issued (step_issued hs), row₂, h₂, move.superseded issued superseded⟩

/-- A step under a superseded claim leaves every row as it is. -/
theorem acting_superseded (h : s.step settings l = some s') {i token : Nat} {row : Email}
    (acting : s.acting l = some (i, token)) (hi : s.rows[i]? = some row)
    (superseded : row.delivery.claimToken ≠ some token) {k : Nat} {other : Email}
    (hk : s.rows[k]? = some other) :
    ∃ other', s'.rows[k]? = some other' ∧ other'.message = other.message ∧
      other'.delivery = other.delivery := by
  obtain ⟨other', hk', move⟩ := step_move h hk
  refine ⟨other', hk', ?_⟩
  have mine : ∀ {token' : Nat}, (k, token') = (i, token) → other.heldBy token' = true → False := by
    intro token' same held
    cases same
    rw [hk] at hi
    cases hi
    exact superseded (Email.heldBy_iff.1 held).2
  cases move with
  | same => exact ⟨rfl, rfl⟩
  | claimed => cases acting
  | counted owner held =>
    simp only [Outbox.acting, owner, Option.bind_some, List.head?_cons, Option.some.injEq] at acting
    exact (mine acting held).elim
  | invoked owner => exact ⟨rfl, rfl⟩
  | failed owner held =>
    simp only [Outbox.acting, owner, Option.bind_some, DeliveryPhase.claim, Option.some.injEq]
      at acting
    exact (mine acting held).elim
  | succeeded owner held =>
    simp only [Outbox.acting, owner, Option.bind_some, DeliveryPhase.claim, Option.some.injEq]
      at acting
    exact (mine acting held).elim
  | retried => cases acting

/-- A message has one outcome, which is final when it is sent; a deliverer whose claim was superseded
changes nothing; and a message without an outcome becomes claimable by itself. -/
theorem email_outbox_is_safe (h : (system settings).Reachable s) :
    (∀ row ∈ s.rows, ¬ (row.message.sentAt ≠ none ∧ row.message.failedAt ≠ none) ∧
      (row.delivery.claimToken = none ↔ row.delivery.claimedAt = none) ∧
      (row.message.sentAt ≠ none ∨ row.message.failedAt ≠ none ∨
        ∃ t, ∀ now, t ≤ now → row.claimable settings now = true)) ∧
    (∀ (i : Nat) row s', s.rows[i]? = some row → row.message.sentAt ≠ none →
      (system settings).Steps s s' → ∃ row', s'.rows[i]? = some row' ∧
        row'.message = row.message ∧ row'.delivery = row.delivery ∧
        ∀ now, row'.claimable settings now = false) ∧
    ∀ (i j : Nat) row token d s₁ l s₂, s.deliverers[j]? = some d → (i, token) ∈ d.inHand →
      s.rows[i]? = some row → row.delivery.claimToken ≠ some token →
      (system settings).Steps s s₁ → s₁.step settings l = some s₂ →
      s₁.acting l = some (i, token) → ∀ (k : Nat) other, s₁.rows[k]? = some other →
        ∃ other', s₂.rows[k]? = some other' ∧ other'.message = other.message ∧
          other'.delivery = other.delivery := by
  have inv := sound h
  refine ⟨?_, ?_, ?_⟩
  · intro row mem
    obtain ⟨i, hi⟩ := List.getElem?_of_mem mem
    have ok := inv.rows i row hi
    refine ⟨?_, ok.claim, ?_⟩
    · rintro ⟨sent, failed⟩
      rcases ok.outcome with unsent | alive
      · exact sent unsent
      · exact failed alive
    · by_cases unsent : row.message.sentAt = none
      · by_cases alive : row.message.failedAt = none
        · exact .inr (.inr (ok.claimable unsent alive))
        · exact .inr (.inl alive)
      · exact .inl unsent
  · intro i row s' hi sent steps
    obtain ⟨row', hi', message, delivery⟩ := sent_steps h steps hi sent
    refine ⟨row', hi', message, delivery, fun now => ?_⟩
    by_contra selected
    have live := Email.live_of_claimable (Bool.of_not_eq_false selected)
    exact sent (message ▸ live.1)
  · intro i j row token d s₁ l s₂ hj held hi superseded steps hs acting k other hk
    obtain ⟨row₁, h₁, superseded'⟩ :=
      superseded_steps h steps hi (inv.inHand j d hj _ held) superseded
    exact acting_superseded hs acting h₁ superseded' hk

/-- Two attempts, an hour between retries at most, claims that expire after five minutes. -/
def twoAttempts : EmailSettings where
  maxAttempts := 2
  retryBaseSeconds := 30
  retryMaxSeconds := 3600
  claimTimeoutSeconds := 300
  redactSentBodies := true
  one_le_maxAttempts := Nat.le_succ 1

/-- The first deliverer is overtaken by a second one, which sends the message. -/
theorem email_outbox_is_safe_overtaken : ∃ s s' : Outbox,
    run (step twoAttempts) {} [.queueEmail "m" "a@b" "Hello" "Body" 0, .claimPending 0 20 fun _ => false,
      .increment 0, .claimPending 300000000 20 fun _ => false] = some s ∧
    run (step twoAttempts) s [.increment 1, .send 1 .success, .finish 1 300000001, .send 0 .success] =
      some s' ∧
    ∃ s'', s'.step twoAttempts (.finish 0 300000002) = some s'' ∧
      ∀ (k : Nat) other, s'.rows[k]? = some other → ∃ other', s''.rows[k]? = some other' ∧
        other'.message = other.message ∧ other'.delivery = other.delivery := by
  refine ⟨_, _, rfl, rfl, _, rfl, ?_⟩
  have first : run (step twoAttempts) {} [.queueEmail "m" "a@b" "Hello" "Body" 0,
    .claimPending 0 20 fun _ => false, .increment 0,
    .claimPending 300000000 20 fun _ => false] = some _ := rfl
  have reached : (system twoAttempts).Reachable _ := ⟨{}, rfl, steps_of_run first⟩
  refine (email_outbox_is_safe reached).2.2 0 0 _ 0 _ _ (.finish 0 300000002) _ rfl
    List.mem_cons_self rfl ?_ ?_ rfl rfl
  · decide
  · exact steps_of_run (show run (step twoAttempts) _ [.increment 1, .send 1 .success,
      .finish 1 300000001, .send 0 .success] = some _ from rfl)

end Outbox

end DataMover
