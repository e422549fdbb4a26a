import DataMover.Email.Outbox

/-!
# The number of delivery attempts

`email_max_attempts` is compared with the counter only after a handled error.  A message whose last
permitted attempt ended without its final write is claimed again when the claim has expired, and a
deliverer that counted its attempt before an operator reset may invoke the transport after it.  In the
runs without these two steps the counter bounds the invocations (`delivery_attempts_are_bounded`).
-/

namespace DataMover

open Transition

namespace Outbox

variable {settings : EmailSettings} {s s' : Outbox} {l : OutboxStep}

/-- No expired claim of a message that has used up its attempts is taken over, and no attempt that
was counted before a reset reaches the transport after it. -/
def WithinAttempts (settings : EmailSettings) (s : Outbox) : OutboxStep → Prop
  | .claimPending now limit locked => ∀ i ∈ s.pending settings now limit locked,
    ∀ row, s.rows[i]? = some row → row.delivery.claimToken ≠ none →
      row.message.attempts < settings.maxAttempts
  | .send j _ => ∀ d i token attempt resets, s.deliverers[j]? = some d →
    d.phase = .sending i token attempt resets → ∀ row, s.rows[i]? = some row → row.resets = resets
  | _ => True

/-! ## The invariant -/

/-- The deliverer has counted an attempt for the message `i` after its last reset, and did not invoke
the transport yet. -/
def sendingTo (i resets : Nat) (d : Deliverer) : Bool :=
  match d.phase with
  | .sending k _ _ r => k == i && r == resets
  | _ => false

/-- The counter is within the bound, and below it when the message is free. -/
def Within (settings : EmailSettings) (row : Email) : Prop :=
  row.message.attempts ≤ settings.maxAttempts ∧
    (row.live = true → row.delivery.claimToken = none →
      row.message.attempts < settings.maxAttempts)

/-- What a deliverer knows about the message `i`. -/
structure Fits (settings : EmailSettings) (i : Nat) (row : Email) (d : Deliverer) : Prop where
  waiting : ∀ token, (i, token) ∈ d.claims → row.delivery.claimToken = some token →
    row.message.attempts < settings.maxAttempts
  sending : ∀ token attempt resets, d.phase = .sending i token attempt resets →
    resets ≤ row.resets ∧ (row.delivery.claimToken = some token → row.message.attempts = attempt)
  finishing : ∀ token attempt error, d.phase = .finishing i token attempt error →
    row.delivery.claimToken = some token → row.message.attempts = attempt

/-- Every claim in hand is of an existing message, under a token of its own. -/
structure Exclusive (s : Outbox) : Prop where
  bound : ∀ (j : Nat) d, s.deliverers[j]? = some d → ∀ e ∈ d.inHand, e.1 < s.rows.length
  owner : ∀ (j : Nat) d, s.deliverers[j]? = some d → ∀ e ∈ d.inHand, s.issued[e.2]? = some j
  nodup : ∀ (j : Nat) d, s.deliverers[j]? = some d → (d.inHand.map Prod.snd).Nodup

/-- The counters of the messages and what the deliverers know of them. -/
structure Tallied (settings : EmailSettings) (s : Outbox) : Prop where
  within : ∀ (i : Nat) row, s.rows[i]? = some row → Within settings row
  fits : ∀ (i j : Nat) row d, s.rows[i]? = some row → s.deliverers[j]? = some d →
    Fits settings i row d
  count : ∀ (i : Nat) row, s.rows[i]? = some row →
    row.invocations + s.deliverers.countP (sendingTo i row.resets) ≤ row.message.attempts

/-- The invariant of the runs within the attempts. -/
structure Bounded (settings : EmailSettings) (s : Outbox) : Prop extends Tallied settings s where
  sound : s.Sound
  exclusive : s.Exclusive

/-! ## Claims in hand -/

theorem step_issued_prefix (h : s.step settings l = some s') {t j : Nat}
    (ht : s.issued[t]? = some j) : s'.issued[t]? = some j := by
  cases l with
  | queueEmail id recipient subject bodyText now =>
    cases h
    exact ht
  | claimPending now limit locked =>
    cases h
    obtain ⟨bound, -⟩ := List.getElem?_eq_some_iff.1 ht
    simp only [claimPending]
    rw [List.getElem?_append_left bound, ht]
  | increment k =>
    obtain ⟨i, token, claims, row, -, -, ⟨-, rfl⟩ | ⟨-, rfl⟩⟩ := increment_cases h <;> exact ht
  | send k outcome =>
    obtain ⟨claims, i, token, attempt, resets, next, -, -, rfl⟩ := send_cases h
    exact ht
  | finish k now =>
    obtain ⟨claims, i, token, attempt, error, row, -, -, -, issued, -⟩ := finish_cases h
    rwa [issued]
  | crash k =>
    simp only [step] at h
    split_ifs at h
    cases h
    exact ht
  | retryFailed messageId limit locked now =>
    cases h
    exact ht

theorem step_rows_length (h : s.step settings l = some s') : s.rows.length ≤ s'.rows.length := by
  by_contra fewer
  have last : s'.rows.length < s.rows.length := by omega
  obtain ⟨row', hr, -⟩ := step_move h (List.getElem?_eq_getElem last)
  have bound := (List.getElem?_eq_some_iff.1 hr).1
  omega

theorem Exclusive.step (ex : s.Exclusive) (h : s.step settings l = some s') : s'.Exclusive where
  bound j d' hj e he := by
    rcases step_deliverers h hj with ⟨d, hd, less⟩ | ⟨-, now, limit, locked, rfl, rfl⟩
    · exact Nat.lt_of_lt_of_le (ex.bound j d hd e (less.subset he)) (step_rows_length h)
    · cases h
      have mem : e ∈ (s.pending settings now limit locked).zipIdx s.issued.length := by
        simpa [Deliverer.inHand, DeliveryPhase.claim] using he
      obtain ⟨row, hr, -⟩ := of_mem_select (List.fst_mem_of_mem_zipIdx mem)
      have bound := (List.getElem?_eq_some_iff.1 hr).1
      simpa [claimPending] using bound
  owner j d' hj e he := by
    rcases step_deliverers h hj with ⟨d, hd, less⟩ | ⟨rfl, now, limit, locked, rfl, rfl⟩
    · exact step_issued_prefix h (ex.owner j d hd e (less.subset he))
    · cases h
      have mem : e ∈ (s.pending settings now limit locked).zipIdx s.issued.length := by
        simpa [Deliverer.inHand, DeliveryPhase.claim] using he
      have low := List.le_snd_of_mem_zipIdx mem
      have high := List.snd_lt_add_of_mem_zipIdx mem
      simp only [claimPending]
      rw [List.getElem?_append_right low, List.getElem?_map,
        List.getElem?_eq_getElem (by simp; omega)]
      rfl
  nodup j d' hj := by
    rcases step_deliverers h hj with ⟨d, hd, less⟩ | ⟨-, now, limit, locked, rfl, rfl⟩
    · exact (ex.nodup j d hd).sublist (less.map Prod.snd)
    · have tokens := List.nodup_range' (s := s.issued.length)
        (n := (s.pending settings now limit locked).length)
      simpa [Deliverer.inHand, DeliveryPhase.claim, List.zipIdx_map_snd] using tokens

/-- A claim token is in the hands of one deliverer. -/
theorem Exclusive.unique (ex : s.Exclusive) {j k i i' token : Nat} {d d' : Deliverer}
    (hj : s.deliverers[j]? = some d) (hk : s.deliverers[k]? = some d')
    (mine : (i, token) ∈ d.inHand) (other : (i', token) ∈ d'.inHand) : j = k := by
  have first := ex.owner j d hj _ mine
  have second := ex.owner k d' hk _ other
  rw [first] at second
  exact Option.some.inj second

/-! ## Every step within the attempts -/

section Fits

variable {i j : Nat} {row : Email} {d : Deliverer} {token : Nat}

/-- A message without a claim binds no deliverer. -/
theorem Fits.of_free {row' : Email} (fits : Fits settings i row d)
    (free : row'.delivery.claimToken = none) (more : row.resets ≤ row'.resets) :
    Fits settings i row' d where
  waiting t _ held := by
    rw [free] at held
    cases held
  sending t a r phase := by
    refine ⟨Nat.le_trans (fits.sending t a r phase).1 more, fun held => ?_⟩
    rw [free] at held
    cases held
  finishing t a e _ held := by
    rw [free] at held
    cases held

/-- A deliverer that does not hold the current claim may see the counter change. -/
theorem Fits.of_other {row' : Email} (fits : Fits settings i row d)
    (held : row'.delivery.claimToken = some token) (same : row'.resets = row.resets)
    (other : (i, token) ∉ d.inHand) : Fits settings i row' d where
  waiting t mem current := by
    rw [held] at current
    cases current
    exact absurd (List.mem_append_right _ mem) other
  sending t a r phase := by
    refine ⟨same ▸ (fits.sending t a r phase).1, fun current => ?_⟩
    rw [held] at current
    cases current
    exact absurd (by simp [Deliverer.inHand, phase, DeliveryPhase.claim]) other
  finishing t a e phase current := by
    rw [held] at current
    cases current
    exact absurd (by simp [Deliverer.inHand, phase, DeliveryPhase.claim]) other

/-- An idle deliverer only waits. -/
theorem Fits.of_idle {claims : List (Nat × Nat)}
    (waiting : ∀ token, (i, token) ∈ claims → row.delivery.claimToken = some token →
      row.message.attempts < settings.maxAttempts) : Fits settings i row ⟨claims, .idle⟩ where
  waiting := waiting
  sending _ _ _ phase := by cases phase
  finishing _ _ _ phase := by cases phase

end Fits

/-- The rows and the deliverers of a state in which one of each was rewritten. -/
theorem fits_set {i j : Nat} {row row' : Email} {d d' : Deliverer}
    (hi : s.rows[i]? = some row) (hj : s.deliverers[j]? = some d)
    (old : ∀ (k m : Nat) r e, s.rows[k]? = some r → s.deliverers[m]? = some e →
      Fits settings k r e)
    (same : Fits settings i row' d')
    (others : ∀ m e, m ≠ j → s.deliverers[m]? = some e → Fits settings i row' e)
    (rest : ∀ k r, k ≠ i → s.rows[k]? = some r → Fits settings k r d') :
    ∀ (k m : Nat) r e, (s.rows.set i row')[k]? = some r →
      (s.deliverers.set j d')[m]? = some e → Fits settings k r e := by
  intro k m r e hk hm
  obtain ⟨boundi, -⟩ := List.getElem?_eq_some_iff.1 hi
  obtain ⟨boundj, -⟩ := List.getElem?_eq_some_iff.1 hj
  rw [List.getElem?_set] at hk hm
  split_ifs at hk hm with ki mj mj
  · cases hk
    cases hm
    exact ki ▸ same
  · cases hk
    exact ki ▸ others m e (Ne.symm mj) hm
  · cases hm
    exact rest k r (Ne.symm ki) hk
  · exact old k m r e hk hm

/-- How the number of counted attempts changes with one deliverer. -/
theorem countP_set_deliverer {p : Deliverer → Bool} {j : Nat} {d e : Deliverer}
    (hj : s.deliverers[j]? = some d) :
    (s.deliverers.set j e).countP p + (if p d = true then 1 else 0) =
      s.deliverers.countP p + (if p e = true then 1 else 0) := by
  obtain ⟨bound, rfl⟩ := List.getElem?_eq_some_iff.1 hj
  rw [List.countP_set bound]
  have pos : p s.deliverers[j] = true → 0 < s.deliverers.countP p := fun h =>
    List.countP_pos_iff.2 ⟨_, List.getElem_mem bound, h⟩
  split_ifs with old new new
  · have := pos old
    omega
  · have := pos old
    omega
  · omega
  · omega

theorem increment_tallied {j : Nat} (inv : s.Bounded settings) (h : s.increment j = some s') :
    s'.Tallied settings := by
  obtain ⟨i, token, claims, row, hj, hi, ⟨held, rfl⟩ | ⟨-, rfl⟩⟩ := increment_cases h
  · obtain ⟨-, current⟩ := Email.heldBy_iff.1 held
    have below := (inv.fits i j row _ hi hj).waiting token List.mem_cons_self current
    have tokens := inv.exclusive.nodup j _ hj
    refine ⟨?_, ?_, ?_⟩
    · intro k r hk
      rw [List.getElem?_set] at hk
      split_ifs at hk with same bound
      · cases hk
        exact ⟨below, fun _ free => absurd (current.symm.trans free) (Option.some_ne_none token)⟩
      · exact inv.within k r hk
    · refine fits_set hi hj inv.fits ⟨?_, ?_, ?_⟩ ?_ ?_
      · intro t mem current'
        have same : some t = some token := current'.symm.trans current
        cases same
        exact absurd (List.mem_map_of_mem (f := Prod.snd) mem) (List.nodup_cons.1 tokens).1
      · intro t a r phase
        cases phase
        exact ⟨Nat.le_refl _, fun _ => rfl⟩
      · intro t a e phase
        cases phase
      · intro m e other hm
        refine (inv.fits i m row e hi hm).of_other current rfl fun mem => ?_
        exact other (inv.exclusive.unique hm hj mem List.mem_cons_self)
      · intro k r other hk
        have old := inv.fits k j r _ hk hj
        refine ⟨fun t mem => old.waiting t (List.mem_cons_of_mem _ mem), ?_, ?_⟩
        · intro t a resets phase
          cases phase
          exact absurd rfl other
        · intro t a e phase
          cases phase
    · intro k r hk
      have moved := countP_set_deliverer (p := sendingTo k r.resets)
        (e := ⟨claims, .sending i token (row.message.attempts + 1) row.resets⟩) hj
      rw [List.getElem?_set] at hk
      split_ifs at hk with same bound
      · cases hk
        subst same
        have old := inv.count i row hi
        simp only [sendingTo, beq_self_eq_true, Bool.and_self, if_true, Bool.false_eq_true,
          if_false, Email.countAttempt] at moved old ⊢
        omega
      · have old := inv.count k r hk
        simp only [sendingTo, beq_eq_false_iff_ne.2 same, Bool.false_and, Bool.false_eq_true,
          if_false] at moved old ⊢
        omega
  · refine ⟨inv.within, ?_, ?_⟩
    · intro k m r e hk hm
      rw [List.getElem?_set] at hm
      split_ifs at hm with same bound
      · cases hm
        exact .of_idle fun t mem => (inv.fits k j r _ hk hj).waiting t (List.mem_cons_of_mem _ mem)
      · exact inv.fits k m r e hk hm
    · intro k r hk
      have old := inv.count k r hk
      have moved := countP_set_deliverer (p := sendingTo k r.resets) (e := ⟨claims, .idle⟩) hj
      simp only [sendingTo, Bool.false_eq_true, if_false] at moved old ⊢
      omega

theorem send_tallied {j : Nat} {outcome : TransportOutcome} (inv : s.Bounded settings)
    (within : WithinAttempts settings s (.send j outcome)) (h : s.send j outcome = some s') :
    s'.Tallied settings := by
  obtain ⟨claims, i, token, attempt, resets, next, hj, after, rfl⟩ := send_cases h
  have notSending : ∀ k r, sendingTo k r next = false := by
    intro k r
    obtain rfl | ⟨error, rfl⟩ := after <;> rfl
  refine ⟨?_, ?_, ?_⟩
  · intro k r hk
    obtain ⟨old, hold, rfl⟩ := Option.map_eq_some_iff.1 ((List.getElem?_modify ..).symm.trans hk)
    have kept := inv.within k old hold
    split_ifs <;> exact kept
  · intro k m r e hk hm
    obtain ⟨old, hold, rfl⟩ := Option.map_eq_some_iff.1 ((List.getElem?_modify ..).symm.trans hk)
    have invoked : ∀ d, Fits settings k old d → 
        Fits settings k (if i = k then old.invoke else old) d := by
      intro d fits
      split_ifs
      · exact ⟨fits.waiting, fits.sending, fits.finishing⟩
      · exact fits
    apply invoked
    rw [List.getElem?_set] at hm
    split_ifs at hm with same bound
    · cases hm
      have mine := inv.fits k j old _ hold hj
      obtain rfl | ⟨error, rfl⟩ := after
      · exact .of_idle fun t mem => by cases mem
      · refine ⟨mine.waiting, ?_, ?_⟩
        · intro t a r phase
          cases phase
        · intro t a e phase
          cases phase
          exact (mine.sending token attempt resets rfl).2
    · exact inv.fits k m old e hold hm
  · intro k r hk
    obtain ⟨old, hold, rfl⟩ := Option.map_eq_some_iff.1 ((List.getElem?_modify ..).symm.trans hk)
    have count := inv.count k old hold
    have moved := countP_set_deliverer (p := sendingTo k old.resets) (e := next) hj
    rw [notSending] at moved
    by_cases same : i = k
    · subst same
      have epoch := within _ i token attempt resets hj rfl old hold
      simp only [sendingTo, epoch, beq_self_eq_true, Bool.and_self, if_true, Bool.false_eq_true,
        if_false, Email.invoke] at moved count ⊢
      omega
    · simp only [sendingTo, beq_eq_false_iff_ne.2 same, Bool.false_and, Bool.false_eq_true,
        if_false, if_neg same] at moved count ⊢
      omega

/-- The final write frees the message and keeps its counter, and a free message is below the bound. -/
theorem settle_within {row : Email} {attempt : Nat} (counted : row.message.attempts = attempt)
    (within : Within settings row) (error : Option String) (now : Time) :
    (row.settle settings now attempt error).delivery.claimToken = none ∧
      (row.settle settings now attempt error).resets = row.resets ∧
      (row.settle settings now attempt error).invocations = row.invocations ∧
      (row.settle settings now attempt error).message.attempts = row.message.attempts ∧
      Within settings (row.settle settings now attempt error) := by
  cases error with
  | none =>
    refine ⟨rfl, rfl, rfl, rfl, within.1, fun live => ?_⟩
    simp [Email.live, Email.settle, Email.succeed] at live
  | some error =>
    refine ⟨rfl, rfl, rfl, rfl, within.1, fun live _ => ?_⟩
    by_contra reached
    have dead : settings.maxAttempts ≤ attempt := counted ▸ Nat.le_of_not_lt reached
    simp [Email.live, Email.settle, Email.fail, dead] at live

theorem finish_tallied {j : Nat} {now : Time} (inv : s.Bounded settings)
    (h : s.finish settings j now = some s') : s'.Tallied settings := by
  obtain ⟨claims, i, token, attempt, error, row, hj, hi, deliverers, -, ⟨held, rows⟩ | ⟨-, rows⟩⟩ :=
    finish_cases h
  · obtain ⟨-, current⟩ := Email.heldBy_iff.1 held
    have counted := (inv.fits i j row _ hi hj).finishing token attempt error rfl current
    obtain ⟨free, resets, invocations, attempts, within⟩ :=
      settle_within counted (inv.within i row hi) error now
    refine ⟨?_, ?_, ?_⟩
    · intro k r hk
      rw [rows, List.getElem?_set] at hk
      split_ifs at hk
      · cases hk
        exact within
      · exact inv.within k r hk
    · rw [rows, deliverers]
      refine fits_set hi hj inv.fits ?_ ?_ ?_
      · refine .of_idle fun t _ current' => ?_
        rw [free] at current'
        cases current'
      · intro m e _ hm
        exact (inv.fits i m row e hi hm).of_free free (Nat.le_of_eq resets.symm)
      · intro k r _ hk
        exact .of_idle (inv.fits k j r _ hk hj).waiting
    · intro k r hk
      have moved := countP_set_deliverer (p := sendingTo k r.resets) (e := ⟨claims, .idle⟩) hj
      rw [deliverers]
      rw [rows, List.getElem?_set] at hk
      split_ifs at hk with same bound
      · subst same
        have old := inv.count i row hi
        have eq := Option.some.inj hk
        rw [← eq] at moved ⊢
        rw [resets] at moved ⊢
        rw [invocations, attempts]
        simp only [sendingTo, Bool.false_eq_true, if_false] at moved old ⊢
        omega
      · have old := inv.count k r hk
        simp only [sendingTo, Bool.false_eq_true, if_false] at moved old ⊢
        omega
  · refine ⟨?_, ?_, ?_⟩
    · rw [rows]
      exact inv.within
    · intro k m r e hk hm
      rw [rows] at hk
      rw [deliverers, List.getElem?_set] at hm
      split_ifs at hm
      · cases hm
        exact .of_idle (inv.fits k j r _ hk hj).waiting
      · exact inv.fits k m r e hk hm
    · intro k r hk
      rw [rows] at hk
      have old := inv.count k r hk
      have moved := countP_set_deliverer (p := sendingTo k r.resets) (e := ⟨claims, .idle⟩) hj
      rw [deliverers]
      simp only [sendingTo, Bool.false_eq_true, if_false] at moved old ⊢
      omega

theorem crash_tallied {j : Nat} (inv : s.Bounded settings) (bound : j < s.deliverers.length) :
    Tallied settings { s with deliverers := s.deliverers.set j {} } := by
  have hj := List.getElem?_eq_getElem bound
  refine ⟨inv.within, ?_, ?_⟩
  · intro k m r e hk hm
    rw [List.getElem?_set] at hm
    split_ifs at hm with same
    · cases hm
      exact .of_idle fun t mem => by cases mem
    · exact inv.fits k m r e hk hm
  · intro k r hk
    have old := inv.count k r hk
    have moved := countP_set_deliverer (p := sendingTo k r.resets) (e := {}) hj
    simp only [sendingTo, Bool.false_eq_true, if_false] at moved old ⊢
    omega

/-- No deliverer is sending to a message that was reset since. -/
theorem Bounded.countP_reset (inv : s.Bounded settings) {i r : Nat} {row : Email}
    (hi : s.rows[i]? = some row) (later : row.resets < r) :
    s.deliverers.countP (sendingTo i r) = 0 := by
  rw [List.countP_eq_zero]
  intro d mem sending
  obtain ⟨j, hj⟩ := List.getElem?_of_mem mem
  unfold sendingTo at sending
  split at sending
  · rename_i k token attempt resets phase
    simp only [Bool.and_eq_true, beq_iff_eq] at sending
    obtain ⟨rfl, rfl⟩ := sending
    have seen := ((inv.fits k j row d hi hj).sending token attempt _ phase).1
    omega
  · cases sending

theorem retryFailed_tallied (inv : s.Bounded settings) (messageId : Option String) (limit : Nat)
    (locked : Nat → Bool) (now : Time) :
    (s.retryFailed messageId limit locked now).Tallied settings := by
  refine ⟨?_, ?_, ?_⟩
  · intro k r hk
    obtain ⟨old, hold, rfl⟩ := Option.map_eq_some_iff.1 ((List.getElem?_mapIdx ..).symm.trans hk)
    split_ifs
    · exact ⟨Nat.zero_le _, fun _ _ => settings.one_le_maxAttempts⟩
    · exact inv.within k old hold
  · intro k m r e hk hm
    obtain ⟨old, hold, rfl⟩ := Option.map_eq_some_iff.1 ((List.getElem?_mapIdx ..).symm.trans hk)
    have fits := inv.fits k m old e hold hm
    split_ifs
    · exact fits.of_free rfl (Nat.le_succ _)
    · exact fits
  · intro k r hk
    obtain ⟨old, hold, rfl⟩ := Option.map_eq_some_iff.1 ((List.getElem?_mapIdx ..).symm.trans hk)
    split_ifs
    · have none := inv.countP_reset hold (Nat.lt_succ_self old.resets)
      simp only [Email.retry, retryFailed, none, Nat.add_zero, Nat.le_refl]
    · exact inv.count k old hold

theorem claimPending_tallied {now : Time} {limit : Nat} {locked : Nat → Bool}
    (inv : s.Bounded settings) (within : WithinAttempts settings s (.claimPending now limit locked)) :
    (s.claimPending settings now limit locked).Tallied settings := by
  have below : ∀ (k token : Nat) row, s.rows[k]? = some row →
      ((s.pending settings now limit locked).zipIdx s.issued.length).lookup k = some token →
      row.message.attempts < settings.maxAttempts ∧ s.issued.length ≤ token := by
    intro k token row hk found
    obtain ⟨mem, fresh, -⟩ := of_lookup_zipIdx found
    obtain ⟨row', hr, claimable⟩ := of_mem_select mem
    rw [hk] at hr
    cases hr
    refine ⟨?_, fresh⟩
    by_cases free : row.delivery.claimToken = none
    · exact (inv.within k row hk).2 (Email.live_iff.2 (Email.live_of_claimable claimable)) free
    · exact within k mem row hk free
  refine ⟨?_, ?_, ?_⟩
  · intro k r hk
    obtain ⟨old, hold, rfl⟩ := Option.map_eq_some_iff.1 ((List.getElem?_mapIdx ..).symm.trans hk)
    split
    · refine ⟨(inv.within k old hold).1, fun _ free => ?_⟩
      cases free
    · exact inv.within k old hold
  · intro k m r e hk hm
    obtain ⟨old, hold, rfl⟩ := Option.map_eq_some_iff.1 ((List.getElem?_mapIdx ..).symm.trans hk)
    simp only [claimPending, List.getElem?_append, List.getElem?_singleton] at hm
    split_ifs at hm with known new
    · have fits := inv.fits k m old e hold hm
      split
      · rename_i token found
        refine fits.of_other rfl rfl fun mem => ?_
        have issued := inv.sound.inHand m e hm _ mem
        have fresh := (below k token old hold found).2
        omega
      · exact fits
    · cases hm
      refine .of_idle fun t mem current => ?_
      split at current
      · rename_i token found
        exact (below k token old hold found).1
      · -- a token of the new batch is not in an old row
        have issued := (inv.sound.rows k old hold).issued t current
        have fresh := List.le_snd_of_mem_zipIdx mem
        omega
  · intro k r hk
    obtain ⟨old, hold, rfl⟩ := Option.map_eq_some_iff.1 ((List.getElem?_mapIdx ..).symm.trans hk)
    have count := inv.count k old hold
    simp only [claimPending, List.countP_append, List.countP_singleton, sendingTo,
      Bool.false_eq_true, if_false]
    split
    · exact count
    · exact count

theorem queueEmail_tallied (inv : s.Bounded settings) (id recipient subject bodyText : String)
    (now : Time) : Tallied settings { s with
      rows := s.rows ++ [queueEmail id recipient subject bodyText now] } := by
  have split : ∀ {k : Nat} {r}, (s.rows ++ [queueEmail id recipient subject bodyText now])[k]? =
      some r → s.rows[k]? = some r ∨
        k = s.rows.length ∧ r = queueEmail id recipient subject bodyText now := by
    intro k r hk
    rw [List.getElem?_append, List.getElem?_singleton] at hk
    split_ifs at hk with old new
    · exact .inl hk
    · exact .inr ⟨by omega, (Option.some.inj hk).symm⟩
  refine ⟨?_, ?_, ?_⟩
  · intro k r hk
    rcases split hk with old | ⟨-, rfl⟩
    · exact inv.within k r old
    · exact ⟨Nat.zero_le _, fun _ _ => settings.one_le_maxAttempts⟩
  · intro k m r e hk hm
    rcases split hk with old | ⟨rfl, rfl⟩
    · exact inv.fits k m r e old hm
    · refine ⟨?_, ?_, ?_⟩
      · intro t _ held
        cases held
      · intro t a r phase
        have bound := inv.exclusive.bound m e hm (s.rows.length, t)
          (by simp [Deliverer.inHand, phase, DeliveryPhase.claim])
        exact absurd bound (Nat.lt_irrefl _)
      · intro t a e _ held
        cases held
  · intro k r hk
    rcases split hk with old | ⟨rfl, rfl⟩
    · exact inv.count k r old
    · have none : s.deliverers.countP (sendingTo s.rows.length 0) = 0 := by
        rw [List.countP_eq_zero]
        intro d mem sending
        obtain ⟨j, hj⟩ := List.getElem?_of_mem mem
        unfold sendingTo at sending
        split at sending
        · rename_i k token attempt resets phase
          simp only [Bool.and_eq_true, beq_iff_eq] at sending
          have bound := inv.exclusive.bound j d hj (k, token)
            (by simp [Deliverer.inHand, phase, DeliveryPhase.claim])
          simp only [sending.1] at bound
          omega
        · cases sending
      simpa [queueEmail] using none

theorem Bounded.step (inv : s.Bounded settings) (within : WithinAttempts settings s l)
    (h : s.step settings l = some s') : s'.Bounded settings := by
  have tallied : s'.Tallied settings := by
    cases l with
    | queueEmail id recipient subject bodyText now =>
      cases h
      exact queueEmail_tallied inv id recipient subject bodyText now
    | claimPending now limit locked =>
      cases h
      exact claimPending_tallied inv within
    | increment j => exact increment_tallied inv h
    | send j outcome => exact send_tallied inv within h
    | finish j now => exact finish_tallied inv h
    | crash j =>
      simp only [Outbox.step] at h
      split_ifs at h with bound
      cases h
      exact crash_tallied inv bound
    | retryFailed messageId limit locked now =>
      cases h
      exact retryFailed_tallied inv messageId limit locked now
  exact { tallied with sound := inv.sound.step h, exclusive := inv.exclusive.step h }

/-! ## The bound -/

theorem bounded (h : ((system settings).restrict (WithinAttempts settings)).Reachable s) :
    s.Bounded settings := by
  refine h.invariant (I := Bounded settings) ?_ ?_
  · rintro s rfl
    refine ⟨⟨?_, ?_, ?_⟩, ⟨?_, ?_⟩, ⟨?_, ?_, ?_⟩⟩
    all_goals
      intro i
      intros
      contradiction
  · intro s l s' _ inv hs
    exact inv.step hs.1 hs.2

/-- In the runs within the attempts the transport is invoked at most `email_max_attempts` times for a
message between two resets. -/
theorem delivery_attempts_are_bounded
    (h : ((system settings).restrict (WithinAttempts settings)).Reachable s) :
    ∀ row ∈ s.rows, row.invocations ≤ settings.maxAttempts := by
  intro row mem
  obtain ⟨i, hi⟩ := List.getElem?_of_mem mem
  have inv := bounded h
  have counter := (inv.within i row hi).1
  have count := inv.count i row hi
  omega

/-- The condition, evaluated. -/
def withinAttempts (settings : EmailSettings) (s : Outbox) : OutboxStep → Bool
  | .claimPending now limit locked => (s.pending settings now limit locked).all fun i =>
    s.rows[i]?.all fun row => row.delivery.claimToken.isNone ||
      decide (row.message.attempts < settings.maxAttempts)
  | .send j _ => s.deliverers[j]?.all fun d => match d.phase with
    | .sending i _ _ resets => s.rows[i]?.all (·.resets == resets)
    | _ => true
  | _ => true

theorem withinAttempts_sound (h : withinAttempts settings s l = true) :
    WithinAttempts settings s l := by
  cases l with
  | claimPending now limit locked =>
    intro i mem row hi claimed
    have good := List.all_eq_true.1 h i mem
    rw [hi, Option.all_some] at good
    simpa [claimed] using good
  | send j outcome =>
    rintro ⟨claims, phase⟩ i token attempt resets hj rfl row hi
    simp only [withinAttempts, hj, hi, Option.all_some] at h
    exact of_decide_eq_true h
  | _ => trivial

/-- Two failures, a dead letter, an operator reset and a success. -/
theorem delivery_attempts_are_bounded_reset : ∃ s : Outbox,
    run (checked (withinAttempts twoAttempts) (step twoAttempts)) {}
      [.queueEmail "m" "a@b" "Hello" "Body" 0, .claimPending 0 20 fun _ => false, .increment 0,
        .send 0 (.handled "down"), .finish 0 1, .claimPending 30000001 20 fun _ => false,
        .increment 1, .send 1 (.handled "down"), .finish 1 30000002,
        .retryFailed none 20 (fun _ => false) 30000003, .claimPending 30000003 20 fun _ => false,
        .increment 2, .send 2 .success, .finish 2 30000004] = some s ∧
    ∀ row ∈ s.rows, row.invocations ≤ 2 := by
  have replay : run (checked (withinAttempts twoAttempts) (step twoAttempts)) {}
    [.queueEmail "m" "a@b" "Hello" "Body" 0, .claimPending 0 20 fun _ => false, .increment 0,
      .send 0 (.handled "down"), .finish 0 1, .claimPending 30000001 20 fun _ => false,
      .increment 1, .send 1 (.handled "down"), .finish 1 30000002,
      .retryFailed none 20 (fun _ => false) 30000003, .claimPending 30000003 20 fun _ => false,
      .increment 2, .send 2 .success, .finish 2 30000004] = some _ := rfl
  have reached : ((system twoAttempts).restrict (WithinAttempts twoAttempts)).Reachable _ :=
    ⟨{}, rfl, restrict_steps_of_checked (fun _ _ => withinAttempts_sound) replay⟩
  exact ⟨_, rfl, delivery_attempts_are_bounded reached⟩

/-- With two attempts, the process dies in the second one: the expired claim is taken over and the
transport is invoked a third time. -/
theorem delivery_attempts_exceeded : ¬ ∀ (settings : EmailSettings) (s : Outbox),
    (system settings).Reachable s → ∀ row ∈ s.rows, row.invocations ≤ settings.maxAttempts := by
  intro claim
  have reached : ∃ s : Outbox, run (step twoAttempts) {} [.queueEmail "m" "a@b" "Hello" "Body" 0,
      .claimPending 0 20 fun _ => false, .increment 0, .send 0 (.handled "down"), .finish 0 1,
      .claimPending 30000001 20 fun _ => false, .increment 1, .send 1 .unhandled,
      .claimPending 330000001 20 fun _ => false, .increment 2, .send 2 .unhandled] = some s ∧
    ∃ row ∈ s.rows, row.invocations = 3 := ⟨_, rfl, _, List.mem_cons_self, rfl⟩
  obtain ⟨s, replay, row, mem, three⟩ := reached
  have bound := claim twoAttempts s ⟨{}, rfl, steps_of_run replay⟩ row mem
  rw [three] at bound
  exact absurd bound (by decide)

end Outbox

end DataMover
