import DataMover.Runtime.LegacySlot

/-!
# Exclusive ownership of the legacy runtime

What a step does to the slot (`SlotMove`) and to the heap of runtimes (`RuntimesMove`), section by
section, and from it the invariant of all runs: a transition is open under its token, a startup that
raises leaves no transition of its own, and a runtime leaves the slot only when it is drained.
-/

namespace DataMover

open Transition

/-! ## What a step does -/

/-- What a step does to the heap of runtimes. -/
inductive RuntimesMove {F : Type} (xs : List (LegacyRuntime F)) : List (LegacyRuntime F) → Prop
  | same : RuntimesMove xs xs
  | created (x : LegacyRuntime F) (new : x.lifetime = {}) : RuntimesMove xs (xs ++ [x])
  | called (r : Nat) (k : RuntimeCall) :
    RuntimesMove xs (xs.modify r fun x => { x with lifetime := k.run x.lifetime })
  | published (r : Nat) (facts : F) :
    RuntimesMove xs (xs.modify r fun x => { x with resourceFacts := some facts })

namespace RuntimesMove

variable {F : Type} {xs ys : List (LegacyRuntime F)} {r : Nat}

/-- The lifetime of a runtime changes by the calls of its methods. -/
theorem lifetime (h : RuntimesMove xs ys) {x : LegacyRuntime F} (hx : xs[r]? = some x) :
    ∃ y, ys[r]? = some y ∧ (y.lifetime = x.lifetime ∨ ∃ k : RuntimeCall,
      y.lifetime = k.run x.lifetime) := by
  cases h with
  | same => exact ⟨x, hx, .inl rfl⟩
  | created z new =>
    obtain ⟨bound, -⟩ := List.getElem?_eq_some_iff.1 hx
    exact ⟨x, by rw [List.getElem?_append_left bound, hx], .inl rfl⟩
  | called i k =>
    refine ⟨_, by rw [List.getElem?_modify, hx]; rfl, ?_⟩
    by_cases same : i = r
    · exact .inr ⟨k, by simp [same]⟩
    · exact .inl (by simp [same])
  | published i facts =>
    refine ⟨_, by rw [List.getElem?_modify, hx]; rfl, .inl ?_⟩
    by_cases same : i = r
    · simp [same]
    · simp [same]

theorem length_le (h : RuntimesMove xs ys) : xs.length ≤ ys.length := by
  cases h <;> simp

theorem counted (h : RuntimesMove xs ys) (count : ∀ x ∈ xs, x.lifetime.Counted) :
    ∀ y ∈ ys, y.lifetime.Counted := by
  intro y hy
  obtain ⟨i, bound, rfl⟩ := List.getElem_of_mem hy
  by_cases old : i < xs.length
  · have found := List.getElem?_eq_getElem old
    obtain ⟨y, hy, same | ⟨k, run⟩⟩ := h.lifetime found
    · rw [(List.getElem?_eq_some_iff.1 hy).2, same]
      exact count _ (List.getElem_mem old)
    · rw [(List.getElem?_eq_some_iff.1 hy).2, run]
      exact k.run_counted (count _ (List.getElem_mem old))
  · cases h with
    | same => exact absurd bound old
    | created x new =>
      rw [List.getElem_append_right (Nat.le_of_not_lt old), List.getElem_singleton, new]
      rfl
    | called r k => exact absurd (by simpa using bound) old
    | published r facts => exact absurd (by simpa using bound) old

end RuntimesMove

namespace LegacyProcess

variable {F : Type} (s : LegacyProcess F)

/-- The runtime `r` has a lifetime that satisfies `P`. -/
def LifetimeAt (P : ExecutionRuntime → Prop) (r : Nat) : Prop :=
  ∃ x, s.runtimes[r]? = some x ∧ P x.lifetime

/-- The runtime stopped accepting work and has no active operation. -/
abbrev DrainedAt (r : Nat) : Prop := s.LifetimeAt ExecutionRuntime.Drained r

abbrev ClosedAt (r : Nat) : Prop := s.LifetimeAt (·.accepting = false) r

/-- What a step does to the owner and the transition. -/
inductive SlotMove (l : LegacyStep F) (slot : LegacySlot) (runtimes : List (LegacyRuntime F)) :
    Prop
  | same (owner : slot.runtime = s.slot.runtime)
    (flag : slot.transitioning = s.slot.transitioning)
    (token : slot.transitionToken = s.slot.transitionToken)
  | occupied (r : Nat) (empty : s.slot.runtime = none) (owner : slot.runtime = some r)
    (found : r < runtimes.length)
    (holder : ∀ t, s.slot.transitionToken = some t →
      ∃ facts matching, l = .install r (some t) facts matching)
    (flag : slot.transitioning = false) (token : slot.transitionToken = none)
  | vacated (r : Nat) (owner : s.slot.runtime = some r) (drained : s.DrainedAt r)
    (empty : slot.runtime = none)
    (flag : slot.transitioning = s.slot.transitioning)
    (token : slot.transitionToken = s.slot.transitionToken)
  | reserved (owner : slot.runtime = s.slot.runtime) (free : s.slot.transitionToken = none)
    (flag : slot.transitioning = true) (token : slot.transitionToken = some s.tokens)
  | ended (owner : slot.runtime = s.slot.runtime) (flag : slot.transitioning = false)
    (token : slot.transitionToken = none)

/-- What the locals of a startup stand for. -/
def StartupSound : LegacyStartup → Prop
  | .draining r token => s.ClosedAt r ∧ token < s.tokens
  | .failed _ token => token < s.tokens
  | .drained r token _ => s.DrainedAt r ∧ token < s.tokens
  | .aborting token => token < s.tokens
  | .returned _ => True
  | .raised none => True
  | .raised (some token) => s.slot.transitionToken ≠ some token ∧ token < s.tokens

/-- What the locals of a supervisor stand for. -/
def SupervisorSound : LegacySupervisor → Prop
  | .acquired r => r < s.runtimes.length
  | .running r => r < s.runtimes.length
  | .waiting r => s.ClosedAt r
  | .releasing r => s.DrainedAt r
  | _ => True

/-- The invariant of the slot and the calls. -/
structure Sound : Prop where
  owner : ∀ r, s.slot.runtime = some r → r < s.runtimes.length
  flag : s.slot.transitioning = s.slot.transitionToken.isSome
  token : ∀ t, s.slot.transitionToken = some t → t < s.tokens
  counted : ∀ x ∈ s.runtimes, x.lifetime.Counted
  startups : ∀ x ∈ s.startups, s.StartupSound x
  supervisors : ∀ x ∈ s.supervisors, s.SupervisorSound x
  drained : ∀ r ∈ s.drained, s.DrainedAt r

/-- What a step does, on every path. -/
structure Progress (l : LegacyStep F) (s' : LegacyProcess F) : Prop where
  slot : s.SlotMove l s'.slot s'.runtimes
  runtimes : RuntimesMove s.runtimes s'.runtimes
  tokens : s.tokens ≤ s'.tokens
  reserved : ∀ t, s'.slot.transitionToken = some t → s.slot.transitionToken = some t ∨
    t = s.tokens ∧ t < s'.tokens
  startups : ∀ x ∈ s'.startups, x ∈ s.startups ∨ s'.StartupSound x
  supervisors : ∀ x ∈ s'.supervisors, x ∈ s.supervisors ∨ s'.SupervisorSound x
  drained : ∀ r ∈ s'.drained, r ∈ s.drained ∨ s'.DrainedAt r

variable {s} {s' : LegacyProcess F} {l : LegacyStep F}

theorem LifetimeAt.move {P : ExecutionRuntime → Prop} {r : Nat}
    (stable : ∀ (x : ExecutionRuntime) (k : RuntimeCall), x.Counted → P x → P (k.run x))
    (count : ∀ x ∈ s.runtimes, x.lifetime.Counted) (h : s.LifetimeAt P r)
    (move : RuntimesMove s.runtimes s'.runtimes) : s'.LifetimeAt P r := by
  obtain ⟨x, hx, holds⟩ := h
  obtain ⟨y, hy, same | ⟨k, run⟩⟩ := move.lifetime hx
  · exact ⟨y, hy, same ▸ holds⟩
  · exact ⟨y, hy, run ▸ stable _ k (count x (List.mem_of_getElem? hx)) holds⟩

/-- What is drained stays drained. -/
theorem Progress.drainedAt (h : s.Progress l s') (sound : s.Sound) {r : Nat} (hr : s.DrainedAt r) :
    s'.DrainedAt r :=
  hr.move (fun _ k count drained => (drained.run count k).1) sound.counted h.runtimes

theorem Progress.closedAt (h : s.Progress l s') (sound : s.Sound) {r : Nat} (hr : s.ClosedAt r) :
    s'.ClosedAt r :=
  hr.move (fun _ k count closed => k.run_accepting count closed) sound.counted h.runtimes

/-- A step keeps what the locals of the other startups stand for. -/
theorem Progress.startupSound (h : s.Progress l s') (sound : s.Sound) {x : LegacyStartup}
    (hx : s.StartupSound x) : s'.StartupSound x := by
  have tokens := h.tokens
  cases x with
  | draining r token => exact ⟨h.closedAt sound hx.1, Nat.lt_of_lt_of_le hx.2 tokens⟩
  | failed r token => exact Nat.lt_of_lt_of_le hx tokens
  | drained r token raises => exact ⟨h.drainedAt sound hx.1, Nat.lt_of_lt_of_le hx.2 tokens⟩
  | aborting token => exact Nat.lt_of_lt_of_le hx tokens
  | returned token => trivial
  | raised token =>
    cases token with
    | none => trivial
    | some token =>
      refine ⟨fun same => ?_, Nat.lt_of_lt_of_le hx.2 tokens⟩
      -- a transition is only opened under a token that nobody has seen
      rcases h.reserved token same with old | ⟨new, -⟩
      · exact hx.1 old
      · have seen := hx.2
        omega

theorem Progress.supervisorSound (h : s.Progress l s') (sound : s.Sound) {x : LegacySupervisor}
    (hx : s.SupervisorSound x) : s'.SupervisorSound x := by
  cases x with
  | acquired r => exact Nat.lt_of_lt_of_le hx h.runtimes.length_le
  | running r => exact Nat.lt_of_lt_of_le hx h.runtimes.length_le
  | waiting r => exact h.closedAt sound hx
  | releasing r => exact h.drainedAt sound hx
  | _ => trivial

/-- A step keeps the invariant. -/
theorem Progress.sound (h : s.Progress l s') (sound : s.Sound) : s'.Sound where
  owner r hr := by
    have kept := fun old => Nat.lt_of_lt_of_le (sound.owner r old) h.runtimes.length_le
    rcases h.slot with ⟨o, -, -⟩ | ⟨i, -, o, found, -, -, -⟩ | ⟨i, -, -, o, -, -⟩ | ⟨o, -, -, -⟩ |
      ⟨o, -, -⟩
    · exact kept (o ▸ hr)
    · rw [o] at hr
      cases hr
      exact found
    · rw [o] at hr
      cases hr
    · exact kept (o ▸ hr)
    · exact kept (o ▸ hr)
  flag := by
    have flag := sound.flag
    rcases h.slot with ⟨-, f, t⟩ | ⟨r, -, -, -, -, f, t⟩ |
      ⟨r, -, -, -, f, t⟩ | ⟨-, -, f, t⟩ | ⟨-, f, t⟩
    · rw [f, t, flag]
    · rw [f, t]
      rfl
    · rw [f, t, flag]
    · rw [f, t]
      rfl
    · rw [f, t]
      rfl
  token t ht := by
    rcases h.reserved t ht with old | ⟨-, new⟩
    · exact Nat.lt_of_lt_of_le (sound.token t old) h.tokens
    · exact new
  counted := h.runtimes.counted sound.counted
  startups x hx := (h.startups x hx).elim
    (fun old => h.startupSound sound (sound.startups x old)) id
  supervisors x hx := (h.supervisors x hx).elim
    (fun old => h.supervisorSound sound (sound.supervisors x old)) id
  drained r hr := (h.drained r hr).elim (fun old => h.drainedAt sound (sound.drained r old)) id

theorem Progress.setStartup (h : s.Progress l s') (i : Nat) {x : LegacyStartup}
    (hx : s'.StartupSound x) : s.Progress l (s'.setStartup i x) where
  slot := h.slot
  runtimes := h.runtimes
  tokens := h.tokens
  reserved := h.reserved
  startups y hy := (List.mem_or_eq_of_mem_set hy).elim (h.startups y) fun e => .inr (e ▸ hx)
  supervisors := h.supervisors
  drained := h.drained

theorem Progress.setSupervisor (h : s.Progress l s') (j : Nat) {x : LegacySupervisor}
    (hx : s'.SupervisorSound x) : s.Progress l (s'.setSupervisor j x) where
  slot := h.slot
  runtimes := h.runtimes
  tokens := h.tokens
  reserved := h.reserved
  startups := h.startups
  supervisors y hy := (List.mem_or_eq_of_mem_set hy).elim (h.supervisors y) fun e => .inr (e ▸ hx)
  drained := h.drained

/-- A step that changes the slot and the runtimes. -/
theorem progress_slot {slot : LegacySlot} {runtimes : List (LegacyRuntime F)} {tokens : Nat}
    (move : s.SlotMove l slot runtimes) (heap : RuntimesMove s.runtimes runtimes)
    (fresh : tokens = s.tokens ∨ tokens = s.tokens + 1 ∧ slot.transitionToken = some s.tokens)
    (kept : tokens = s.tokens → slot.transitionToken = s.slot.transitionToken ∨
      slot.transitionToken = none) :
    s.Progress l { s with slot := slot, runtimes := runtimes, tokens := tokens } where
  slot := move
  runtimes := heap
  tokens := by
    change s.tokens ≤ tokens
    omega
  reserved t ht := by
    change slot.transitionToken = some t at ht
    rcases fresh with same | ⟨next, token⟩
    · rcases kept same with old | gone
      · exact .inl (old ▸ ht)
      · rw [gone] at ht
        cases ht
    · rw [token] at ht
      cases ht
      exact .inr ⟨rfl, by change s.tokens < tokens; omega⟩
  startups _ hx := .inl hx
  supervisors _ hx := .inl hx
  drained _ hr := .inl hr

/-! ## The locked sections, one by one -/

/-- A section that leaves the owner and the transition alone. -/
theorem progress_keep {slot : LegacySlot} (owner : slot.runtime = s.slot.runtime)
    (flag : slot.transitioning = s.slot.transitioning)
    (token : slot.transitionToken = s.slot.transitionToken) :
    s.Progress l { s with slot := slot } :=
  progress_slot (.same owner flag token) .same (.inl rfl) fun _ => .inl token

theorem progress_refl : s.Progress l s := progress_keep rfl rfl rfl

theorem callRuntime_progress (r : Nat) (k : RuntimeCall) : s.Progress l (s.callRuntime r k) :=
  progress_slot (.same rfl rfl rfl) (.called r k) (.inl rfl) fun _ => .inl rfl

theorem release_progress {r : Nat} (drained : s.DrainedAt r) : s.Progress l (s.release r) := by
  unfold release
  split_ifs with owner
  · exact progress_slot (.vacated r owner drained rfl rfl rfl) .same (.inl rfl) fun _ => .inl rfl
  · exact progress_refl

theorem markClosed_progress (r : Nat) : s.Progress l (s.markClosed r) := by
  unfold markClosed
  split_ifs with owner
  · exact progress_keep rfl rfl rfl
  · exact progress_refl

theorem abort_progress (token : Nat) : s.Progress l (s.abort token) := by
  unfold abort
  split_ifs with held
  · exact progress_slot (.ended rfl rfl rfl) .same (.inl rfl) fun _ => .inr rfl
  · exact progress_refl

theorem startBackground_progress [DecidableEq F] (r task : Nat) :
    s.Progress l (s.startBackground r task).2 := by
  unfold startBackground
  split_ifs with owner kind
  · exact progress_keep rfl rfl rfl
  · exact progress_refl
  · exact progress_refl

theorem register_progress (r task : Nat) (done : Bool) :
    s.Progress l (s.register r task done).2 := by
  unfold register
  split_ifs
  · exact progress_refl
  · exact progress_refl
  · exact progress_refl
  · exact progress_keep rfl rfl rfl

theorem Sound.tidied (sound : s.Sound) : s.tidied.runtime = s.slot.runtime ∧
    s.tidied.transitioning = s.slot.transitioning ∧
    s.tidied.transitionToken = s.slot.transitionToken := by
  have flag := sound.flag
  unfold LegacyProcess.tidied
  split_ifs with free
  · rw [free.2] at flag
    exact ⟨rfl, free.2.symm, (Option.isSome_eq_false_iff.1 flag.symm |> Option.isNone_iff_eq_none.1).symm⟩
  · exact ⟨rfl, rfl, rfl⟩

theorem Sound.no_token (sound : s.Sound) (free : s.slot.transitioning = false) :
    s.slot.transitionToken = none := by
  have flag := sound.flag
  rw [free] at flag
  exact Option.isNone_iff_eq_none.1 (Option.isSome_eq_false_iff.1 flag.symm)

theorem Sound.transitioning (sound : s.Sound) {t : Nat} (h : s.slot.transitionToken = some t) :
    s.slot.transitioning = true := by
  rw [sound.flag, h]
  rfl

theorem legacyRuntime_progress [DecidableEq F] (sound : s.Sound) (settings : Nat)
    (stopEvent : Option Nat) (fresh : Nat) (facts : Facts F) :
    s.Progress l (s.legacyRuntime settings stopEvent fresh facts).2 := by
  obtain ⟨owner, flag, token⟩ := sound.tidied
  have kept : s.Progress l { s with slot := s.tidied } := progress_keep owner flag token
  unfold legacyRuntime
  dsimp only
  split_ifs with busy
  · exact kept
  · cases facts with
    | error text => exact kept
    | ok facts =>
      dsimp only
      split
      · split <;> exact kept
      · rename_i empty
        have free : s.slot.transitioning = false := by
          rw [← flag]
          exact Bool.eq_false_iff.2 busy
        have none := sound.no_token free
        refine progress_slot (.occupied s.runtimes.length (owner ▸ empty) rfl (by simp) ?_
          (flag.trans free) (token.trans none)) (.created _ rfl) (.inl rfl) fun _ => .inl token
        intro t held
        rw [none] at held
        cases held

/-- The runtime that `_legacy_runtime` returns exists. -/
theorem legacyRuntime_found [DecidableEq F] {settings fresh r : Nat} {stopEvent : Option Nat}
    {facts : Facts F}
    (h : s.legacyRuntime settings stopEvent fresh facts = (.ok r, s')) :
    r < s'.runtimes.length := by
  unfold legacyRuntime at h
  dsimp only at h
  by_cases busy : s.tidied.transitioning = true
  · rw [if_pos busy] at h
    cases h
  rw [if_neg busy] at h
  cases facts with
  | error text => cases h
  | ok facts =>
    dsimp only at h
    split at h
    · split at h
      · rename_i existing found
        have bound := (List.getElem?_eq_some_iff.1 found).1
        cases valid : checkOwner existing settings stopEvent facts with
        | error e =>
          rw [valid] at h
          cases h
        | ok u =>
          rw [valid] at h
          cases h
          exact bound
      · cases h
    · cases h
      simp

theorem publish_progress {r : Nat} {token : Option Nat} {matching : Bool} (sound : s.Sound)
    (found : r < s.runtimes.length)
    (empty : s.slot.runtime = none) (valid : ∀ t, s.slot.transitionToken = some t → token = some t)
    (facts : F) :
    s.Progress (.install r token (.ok facts) matching) (s.publish r token facts) := by
  have free : token = none → s.slot.transitionToken = none := by
    intro absent
    cases held : s.slot.transitionToken with
    | none => rfl
    | some t =>
      rw [valid t held] at absent
      cases absent
  refine progress_slot (.occupied r empty rfl ?_ ?_ ?_ ?_) (.published r facts) (.inl rfl) ?_
  · simpa using found
  · intro t held
    exact ⟨.ok facts, matching, by rw [valid t held]⟩
  · cases token with
    | some t => rfl
    | none =>
      change s.slot.transitioning = false
      rw [sound.flag, free rfl]
      rfl
  · cases token with
    | some t => rfl
    | none => exact free rfl
  · intro _
    cases token with
    | some t => exact .inr rfl
    | none => exact .inl rfl

theorem install_progress [DecidableEq F] (sound : s.Sound) (r : Nat) (token : Option Nat)
    (facts : Facts F) (matching : Bool) :
    s.Progress (.install r token facts matching) (s.install r token facts matching).2 := by
  unfold install
  split
  · exact progress_refl
  rename_i runtime found
  cases facts with
  | error text =>
    dsimp only
    split_ifs <;> exact progress_refl
  | ok f =>
    dsimp only
    split_ifs with busy _ occupied _ _ _ same
    any_goals exact progress_refl
    -- only the last branch publishes
    refine publish_progress sound (List.getElem?_eq_some_iff.1 found).1 ?_ ?_ f
    · by_contra other
      exact occupied ⟨other, same⟩
    · intro t held
      by_contra differs
      refine busy ⟨sound.transitioning held, ?_⟩
      rw [held]
      exact Ne.symm differs

theorem reserved_progress (sound : s.Sound) (free : s.slot.transitioning = false) :
    s.Progress l s.reserved :=
  progress_slot (.reserved rfl (sound.no_token free) rfl rfl) .same (.inr ⟨rfl, rfl⟩) fun e => by
    omega

theorem abort_token (s : LegacyProcess F) (token : Nat) :
    (s.abort token).slot.transitionToken ≠ some token := by
  unfold abort
  split_ifs with held
  · exact Option.some_ne_none token |>.symm
  · exact held

/-- `begin_shutdown` ends the admission of the runtime. -/
theorem closedAt_beginShutdown {r : Nat} (found : r < s.runtimes.length) :
    (s.callRuntime r .beginShutdown).ClosedAt r := by
  refine ⟨{ s.runtimes[r] with lifetime := s.runtimes[r].lifetime.beginShutdown }, ?_, rfl⟩
  simp [callRuntime, List.getElem?_eq_getElem found, RuntimeCall.run]

/-- Every later section of a startup that raises leaves no transition of its own. -/
theorem startupSection_progress {x x' : LegacyStartup} (hx : s.StartupSound x)
    (h : s.startupSection x = some (x', s')) : s.Progress l s' ∧ s'.StartupSound x' := by
  cases x with
  | failed r token =>
    cases h
    have fresh : token < s.tokens := hx
    by_cases held : s.slot.transitionToken = some token
    · rw [if_pos held]
      have closed : ∃ slot, s.markClosed r = { s with slot := slot } ∧
          slot.runtime = s.slot.runtime ∧ slot.transitionToken = s.slot.transitionToken := by
        unfold markClosed
        split_ifs
        · exact ⟨_, rfl, rfl, rfl⟩
        · exact ⟨s.slot, rfl, rfl, rfl⟩
      obtain ⟨slot, same, owner, token'⟩ := closed
      have gone := abort_token { s with slot := slot } token
      rw [same]
      have ended : ({ s with slot := slot } : LegacyProcess F).abort token = { s with
          slot := { slot with transitioning := false, transitionToken := none } } :=
        if_pos (token'.trans held)
      rw [ended] at gone ⊢
      exact ⟨progress_slot (.ended owner rfl rfl) .same (.inl rfl) fun _ => .inr rfl, gone, fresh⟩
    · rw [if_neg held]
      have same : s.abort token = s := if_neg held
      rw [same]
      exact ⟨progress_refl, held, fresh⟩
  | drained r token raises =>
    cases h
    have progress : s.Progress l
        (if s.slot.transitionToken = some token then s.release r else s) := by
      split_ifs
      · exact release_progress hx.1
      · exact progress_refl
    refine ⟨progress, ?_⟩
    cases raises with
    | true => exact Nat.lt_of_lt_of_le hx.2 progress.tokens
    | false => trivial
  | aborting token =>
    cases h
    have progress : s.Progress l (s.abort token) := abort_progress token
    exact ⟨progress, abort_token s token, Nat.lt_of_lt_of_le hx progress.tokens⟩
  | _ => cases h

theorem beginStartup_progress (sound : s.Sound) :
    s.Progress l s.beginStartup.2 ∧ s.beginStartup.2.StartupSound s.beginStartup.1 := by
  unfold beginStartup
  by_cases busy : s.slot.transitioning = true
  · rw [if_pos busy]
    exact ⟨progress_refl, trivial⟩
  rw [if_neg busy]
  have free : s.slot.transitioning = false := Bool.eq_false_iff.2 busy
  cases owner : s.slot.runtime with
  | none => exact ⟨reserved_progress sound free, trivial⟩
  | some r =>
    dsimp only
    split_ifs with lifespan
    · exact ⟨progress_refl, trivial⟩
    refine ⟨progress_slot (.reserved rfl (sound.no_token free) rfl rfl) (.called r _)
      (.inr ⟨rfl, rfl⟩) fun e => absurd e (Nat.succ_ne_self _), ?_, Nat.lt_succ_self s.tokens⟩
    exact closedAt_beginShutdown (sound.owner r owner)

/-! ## Every step, every run -/

theorem closedAt_iff {r : Nat} : s.closedAt r = true ↔ s.ClosedAt r := by
  simp [closedAt, ClosedAt, LifetimeAt, Option.any_eq_true]

/-- A closed runtime that is idle is drained. -/
theorem ClosedAt.drained {r : Nat} (h : s.ClosedAt r) (idle : s.idleAt r = true) :
    s.DrainedAt r := by
  obtain ⟨x, hx, closed⟩ := h
  rw [idleAt, hx] at idle
  exact ⟨x, hx, closed, of_decide_eq_true idle⟩

theorem drainResult_sound {r token : Nat} {outcome : Option RuntimeDrainOutcome}
    (hx : s.StartupSound (.draining r token)) (possible : s.drainPossible r outcome = true) :
    s.StartupSound (drainResult r token outcome) := by
  obtain ⟨closed, fresh⟩ := hx
  cases outcome with
  | none => exact fresh
  | some outcome =>
    unfold drainResult
    dsimp only
    split_ifs with failed
    · exact fresh
    · refine ⟨closed.drained ?_, fresh⟩
      simpa [drainPossible, failed] using possible

theorem step_progress [DecidableEq F] (sound : s.Sound) (h : s.step l = some s') :
    s.Progress l s' := by
  cases l with
  | construct settings stopEvent =>
    cases h
    exact progress_slot (.same rfl rfl rfl) (.created _ rfl) (.inl rfl) fun _ => .inl rfl
  | call r k =>
    cases h
    exact callRuntime_progress r k
  | legacyRuntime settings stopEvent fresh facts =>
    cases h
    exact legacyRuntime_progress sound settings stopEvent fresh facts
  | install r token facts matching =>
    cases h
    exact install_progress sound r token facts matching
  | drainRuntime r =>
    simp only [step] at h
    split_ifs at h with done
    cases h
    rw [Bool.and_eq_true] at done
    have drained := (closedAt_iff.1 done.1).drained done.2
    exact { progress_refl with
      drained := fun i hi => (List.mem_cons.1 hi).elim (fun e => .inr (e ▸ drained)) .inl }
  | release r =>
    simp only [step] at h
    split_ifs at h with mine
    cases h
    exact release_progress (sound.drained r mine)
  | markClosed r =>
    cases h
    exact markClosed_progress r
  | startBackground r task =>
    cases h
    exact startBackground_progress r task
  | beginStartup =>
    cases h
    obtain ⟨progress, own⟩ := beginStartup_progress (l := .beginStartup) sound
    exact { progress with
      startups := fun x hx => (List.mem_append.1 hx).elim (progress.startups x)
        fun e => .inr (List.mem_singleton.1 e ▸ own) }
  | drain i outcome =>
    simp only [step] at h
    split at h
    · rename_i r token hi
      split_ifs at h with possible
      cases h
      exact progress_refl.setStartup i
        (drainResult_sound (sound.startups _ (List.mem_of_getElem? hi)) possible)
    · cases h
  | startupSection i =>
    obtain ⟨x, hi, h⟩ := Option.bind_eq_some_iff.1 h
    obtain ⟨⟨x', t⟩, hx, rfl⟩ := Option.map_eq_some_iff.1 h
    obtain ⟨progress, own⟩ :=
      startupSection_progress (l := .startupSection i) (sound.startups x (List.mem_of_getElem? hi)) hx
    exact progress.setStartup i own
  | abort token =>
    cases h
    exact abort_progress token
  | runBackground settings stopEvent facts =>
    have progress := legacyRuntime_progress (l := .runBackground settings stopEvent facts) sound
      settings (some stopEvent) stopEvent facts
    simp only [step] at h
    split at h
    · rename_i r t returned
      cases h
      have found := legacyRuntime_found returned
      rw [returned] at progress
      refine { progress with supervisors := fun x hx => ?_ }
      rcases List.mem_append.1 hx with old | new
      · exact progress.supervisors x old
      · rw [List.mem_singleton.1 new]
        exact .inr found
    · rename_i e t raised
      cases h
      rwa [raised] at progress
  | register j task done =>
    simp only [step] at h
    split at h
    · rename_i r hj
      have progress := register_progress (s := s) (l := .register j task done) r task done
      have found := sound.supervisors _ (List.mem_of_getElem? hj)
      split at h
      · rename_i u t registered
        cases h
        rw [registered] at progress
        exact progress.setSupervisor j (Nat.lt_of_lt_of_le found progress.runtimes.length_le)
      · rename_i e t raised
        cases h
        rw [raised] at progress
        exact progress.setSupervisor j trivial
    · cases h
  | stop j =>
    simp only [step] at h
    split at h
    · rename_i r hj
      cases h
      have found := sound.supervisors _ (List.mem_of_getElem? hj)
      exact (callRuntime_progress r _).setSupervisor j (closedAt_beginShutdown found)
    · cases h
  | idle j error =>
    simp only [step] at h
    split at h
    · rename_i r hj
      have closed := sound.supervisors _ (List.mem_of_getElem? hj)
      split_ifs at h with failed idle
      · cases h
        exact progress_refl.setSupervisor j trivial
      · cases h
        exact progress_refl.setSupervisor j (closed.drained idle)
    · cases h
  | cleanup j =>
    simp only [step] at h
    split at h
    · rename_i r hj
      cases h
      exact (release_progress (sound.supervisors _ (List.mem_of_getElem? hj))).setSupervisor j
        trivial
    · cases h
      exact (markClosed_progress _).setSupervisor j trivial
    · cases h

theorem sound_init : ({} : LegacyProcess F).Sound where
  owner _ h := by cases h
  flag := rfl
  token _ h := by cases h
  counted _ h := by cases h
  startups _ h := by cases h
  supervisors _ h := by cases h
  drained _ h := by cases h

/-- The invariant holds in every state of every run. -/
theorem sound [DecidableEq F] (h : (system F).Reachable s) : s.Sound := by
  refine h.invariant (I := Sound) ?_ fun _ _ _ _ inv hs => (step_progress inv hs).sound inv
  rintro s rfl
  exact sound_init

/-- A runtime leaves the slot only when it is drained. -/
theorem removed_drained [DecidableEq F] (sound : s.Sound) (h : s.step l = some s') {r : Nat}
    (owner : s.slot.runtime = some r) (removed : s'.slot.runtime ≠ some r) : s.DrainedAt r := by
  rcases (step_progress sound h).slot with ⟨o, -, -⟩ | ⟨i, empty, -, -, -, -, -⟩ |
    ⟨i, o, drained, -, -, -⟩ | ⟨o, -, -, -⟩ | ⟨o, -, -⟩
  · exact absurd (o.trans owner) removed
  · rw [empty] at owner
    cases owner
  · rw [o] at owner
    cases owner
    exact drained
  · exact absurd (o.trans owner) removed
  · exact absurd (o.trans owner) removed

/-- Along a run a drained runtime stays drained, and an owner is kept or drained. -/
theorem owner_steps [DecidableEq F] (h : (system F).Reachable s) (hs : (system F).Steps s s')
    {r : Nat} (owner : s.slot.runtime = some r) : s'.slot.runtime = some r ∨ s'.DrainedAt r := by
  have drained : ∀ {t u : LegacyProcess F} {l : LegacyStep F}, t.Sound → t.step l = some u →
      t.DrainedAt r → u.DrainedAt r :=
    fun inv hs => (step_progress inv hs).drainedAt inv
  refine h.guarantee (G := fun t u => t.slot.runtime = some r ∨ t.DrainedAt r →
    u.slot.runtime = some r ∨ u.DrainedAt r) ?_ ?_ ?_ hs (.inl owner)
  · exact fun t held => held
  · exact fun t u v first second held => second (first held)
  · intro t l u reachable hs held
    have inv := sound reachable
    rcases held with owner | closed
    · by_cases same : u.slot.runtime = some r
      · exact .inl same
      · exact .inr (drained inv hs (removed_drained inv hs owner same))
    · exact .inr (drained inv hs closed)

/-- A transition is open under its token, only the holder fills the slot while it is, a startup that
raises has closed its own, and a runtime is replaced only after it was drained. -/
theorem ownership_is_exclusive [DecidableEq F] (h : (system F).Reachable s) :
    (s.slot.transitioning = true ↔ s.slot.transitionToken ≠ none) ∧
    (∀ l s' t r, s.step l = some s' → s.slot.transitionToken = some t →
      s'.slot.runtime = some r → s.slot.runtime ≠ some r →
      ∃ facts matching, l = .install r (some t) facts matching) ∧
    (∀ (i t : Nat), s.startups[i]? = some (LegacyStartup.raised (some t)) → s.slot.transitionToken ≠ some t) ∧
    (∀ l s' r, s.step l = some s' → s.slot.runtime = some r → s'.slot.runtime ≠ some r →
      s.DrainedAt r) ∧
    ∀ s' r r', (system F).Steps s s' → s.slot.runtime = some r → s'.slot.runtime = some r' →
      r' ≠ r → s'.DrainedAt r := by
  have inv := sound h
  refine ⟨?_, ?_, ?_, ?_, ?_⟩
  · rw [inv.flag, Option.isSome_iff_ne_none]
  · intro l s' t r hs held owner vacant
    rcases (step_progress inv hs).slot with ⟨o, -, -⟩ | ⟨i, -, o, -, holder, -, -⟩ |
      ⟨i, -, -, o, -, -⟩ | ⟨o, -, -, -⟩ | ⟨o, -, -⟩
    · exact absurd (o.symm.trans owner) vacant
    · rw [o] at owner
      cases owner
      exact holder t held
    · rw [o] at owner
      cases owner
    · exact absurd (o.symm.trans owner) vacant
    · exact absurd (o.symm.trans owner) vacant
  · intro i t raised
    exact (inv.startups _ (List.mem_of_getElem? raised)).1
  · intro l s' r hs owner removed
    exact removed_drained inv hs owner removed
  · intro s' r r' steps owner owner' differs
    rcases owner_steps h steps owner with same | drained
    · rw [owner'] at same
      cases same
      exact absurd rfl differs
    · exact drained

/-- A temporary runtime is drained by a startup, whose token then installs another one. -/
theorem ownership_is_exclusive_startup : ∃ s s' : LegacyProcess Nat,
    run step {} [.legacyRuntime 7 none 3 (.ok 1)] = some s ∧
    run step s [.call 0 .tryAdmit, .beginStartup, .call 0 (.release 0), .drain 0 (some {}),
      .startupSection 0, .construct 8 4, .install 1 (some 0) (.ok 1) true] = some s' ∧
    s.slot.runtime = some 0 ∧ s'.slot.runtime = some 1 ∧ s'.slot.transitioning = false ∧
    s'.DrainedAt 0 := by
  refine ⟨_, _, rfl, rfl, rfl, rfl, rfl, ?_⟩
  have first : run step {} [.legacyRuntime 7 none 3 (.ok 1)] = some _ := rfl
  have reached : (system Nat).Reachable _ := ⟨{}, rfl, steps_of_run first⟩
  refine (ownership_is_exclusive reached).2.2.2.2 _ 0 1 ?_ rfl rfl ?_
  · exact steps_of_run (show run step _ [.call 0 .tryAdmit, .beginStartup, .call 0 (.release 0),
      .drain 0 (some {}), .startupSection 0, .construct 8 4,
      .install 1 (some 0) (.ok 1) true] = some _ from rfl)
  · decide

end LegacyProcess

end DataMover
