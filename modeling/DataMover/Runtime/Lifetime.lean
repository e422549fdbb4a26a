import DataMover.Transition

/-!
# The lifetime of an execution runtime

`PipelineOperationLifetime` counts the operations that one runtime generation has admitted, and
`operation_scope` lets nested work borrow the admission of the work around it.  Threads enter and
leave scopes in any order, a scope decides between borrowing and admission before it takes the lock,
and shutdown may begin at any point.  The count is the number of unreleased leases (`Counted`), and
once shutdown has begun a new lease needs an unreleased one, so that an idle runtime stays idle.
-/

namespace DataMover

open Transition

inductive RuntimeError where
  | admission (text : String)
  | runtime (text : String)
deriving DecidableEq

/-- One admitted operation. -/
structure PipelineOperationLease where
  released : Bool := false
deriving DecidableEq

/-- The lifetime and the stop event of a runtime, with every lease that was ever created. -/
structure ExecutionRuntime where
  accepting : Bool := true
  active : Int := 0
  stopEvent : Bool := false
  leases : List PipelineOperationLease := []
deriving DecidableEq

namespace ExecutionRuntime

/-! ## The methods, each under the condition lock -/

/-- `_released` of a lease. -/
def released (r : ExecutionRuntime) (i : Nat) : Bool := r.leases[i]?.all (·.released)

/-- The number of leases that were not released yet. -/
def unreleased (r : ExecutionRuntime) : Nat := r.leases.countP (!·.released)

/-- `_retain_locked`. -/
def retainLocked (r : ExecutionRuntime) : ExecutionRuntime := { r with active := r.active + 1 }

/-- `_release_locked`. -/
def releaseLocked (r : ExecutionRuntime) : Except RuntimeError Unit × ExecutionRuntime :=
  if r.active ≤ 0 then
    (.error (.runtime "Pipeline operation lifetime was released too many times."), r)
  else (.ok (), { r with active := r.active - 1 })

/-- `PipelineOperationLease(self)`. -/
def newLease (r : ExecutionRuntime) : Nat × ExecutionRuntime :=
  (r.leases.length, { r with leases := r.leases ++ [{}] })

/-- `try_admit`. -/
def tryAdmit (r : ExecutionRuntime) : Option Nat × ExecutionRuntime :=
  if !r.accepting || r.stopEvent then (none, r)
  else
    let created := { r with active := r.active + 1 }.newLease
    (some created.1, created.2)

/-- `PipelineOperationLease.retain`. -/
def retain (i : Nat) (r : ExecutionRuntime) : Except RuntimeError Nat × ExecutionRuntime :=
  if r.released i then
    (.error (.admission "The parent operation lease is already released."), r)
  else
    let created := r.retainLocked.newLease
    (.ok created.1, created.2)

/-- `PipelineOperationLease.release`. -/
def release (i : Nat) (r : ExecutionRuntime) : Except RuntimeError Unit × ExecutionRuntime :=
  if r.released i then (.ok (), r)
  else { r with leases := r.leases.set i { released := true } }.releaseLocked

/-- `begin_shutdown`. -/
def beginShutdown (r : ExecutionRuntime) : ExecutionRuntime :=
  { r with accepting := false, stopEvent := true }

/-- `is_idle`. -/
def isIdle (r : ExecutionRuntime) : Bool := decide (r.active = 0)

/-- `is_accepting`. -/
def isAccepting (r : ExecutionRuntime) : Bool := r.accepting && !r.stopEvent

end ExecutionRuntime

/-- The calls of one runtime; the stop event can be set by anyone who holds it. -/
inductive RuntimeCall where
  | tryAdmit
  | retain (i : Nat)
  | release (i : Nat)
  | beginShutdown
  | setStopEvent
deriving DecidableEq

/-- The runtime after a call. -/
def RuntimeCall.run : RuntimeCall → ExecutionRuntime → ExecutionRuntime
  | .tryAdmit, r => r.tryAdmit.2
  | .retain i, r => (r.retain i).2
  | .release i, r => (r.release i).2
  | .beginShutdown, r => r.beginShutdown
  | .setStopEvent, r => { r with stopEvent := true }

/-! ## Nested scopes -/

/-- `RuntimeOperationScope`. -/
structure RuntimeOperationScope where
  lease : Nat
  owner : Bool := true
  active : Bool := true
deriving DecidableEq

/-- The value of `_ACTIVE_OPERATION_SCOPE`: none, a scope of this runtime or one of another. -/
inductive ActiveScope where
  | none
  | own (scope : Nat)
  | other
deriving DecidableEq

/-- A `with operation_scope()` block: its scope, unless it is of another runtime, and the token that
resets the context variable. -/
structure ScopeFrame where
  scope : Option Nat
  token : ActiveScope
deriving DecidableEq

/-- The locked section that `operation_scope` reaches next. -/
inductive Pending where
  | idle
  | tryAdmit
  | borrow (lease : Nat)
  | close (lease : Nat)
deriving DecidableEq

/-- The call that the locked section makes. -/
def Pending.call : Pending → Option RuntimeCall
  | .idle => none
  | .tryAdmit => some .tryAdmit
  | .borrow i => some (.retain i)
  | .close i => some (.release i)

/-- The context of a thread or task. -/
structure ExecutionContext where
  current : ActiveScope := .none
  frames : List ScopeFrame := []
  pending : Pending := .idle
deriving DecidableEq

/-- A runtime, its scopes and the contexts that use it. -/
structure RuntimeThreads where
  runtime : ExecutionRuntime := {}
  scopes : List RuntimeOperationScope := []
  contexts : List ExecutionContext := []
deriving DecidableEq

inductive RuntimeStep where
  /-- A call outside `operation_scope`. -/
  | call (k : RuntimeCall)
  /-- `wait_until_idle` returns. -/
  | waitUntilIdle
  /-- A thread starts with an empty context. -/
  | start
  /-- `copy_context` for a worker. -/
  | copyContext (c : Nat)
  /-- `operation_scope` reads the context variable and `current.active`. -/
  | enter (c : Nat)
  /-- The context enters a scope of another runtime. -/
  | enterOther (c : Nat)
  /-- The innermost block ends. -/
  | exit (c : Nat)
  /-- The locked section that was reached. -/
  | locked (c : Nat)
deriving DecidableEq

namespace RuntimeThreads

variable (s : RuntimeThreads)

/-- The context after its scope was created with `lease`. -/
def opened (c : Nat) (ctx : ExecutionContext) (lease : Nat) (r : ExecutionRuntime) :
    RuntimeThreads where
  runtime := r
  scopes := s.scopes ++ [{ lease := lease }]
  contexts := s.contexts.set c {
    current := .own s.scopes.length
    frames := ⟨some s.scopes.length, ctx.current⟩ :: ctx.frames }

/-- The context after its locked section raised or returned without a scope. -/
def settled (c : Nat) (ctx : ExecutionContext) (r : ExecutionRuntime) : RuntimeThreads where
  runtime := r
  scopes := s.scopes
  contexts := s.contexts.set c { ctx with pending := .idle }

/-- Where `operation_scope` goes: it borrows the current scope when that is active. -/
def entering (ctx : ExecutionContext) : Pending :=
  match ctx.current with
  | .own j => match s.scopes[j]? with
    | some scope => if scope.active then .borrow scope.lease else .tryAdmit
    | none => .tryAdmit
  | _ => .tryAdmit

/-- `RuntimeOperationScope.close` up to the release. -/
def closing (scope : Option Nat) : Pending × List RuntimeOperationScope :=
  match scope with
  | none => (.idle, s.scopes)
  | some j => match s.scopes[j]? with
    | none => (.idle, s.scopes)
    | some scope =>
      if scope.active then
        (if scope.owner then .close scope.lease else .idle,
          s.scopes.set j { scope with active := false })
      else (.idle, s.scopes)

/-- The locked section of a context. -/
def lockedSection (c : Nat) (ctx : ExecutionContext) : Option RuntimeThreads :=
  match ctx.pending with
  | .idle => none
  | .tryAdmit => match s.runtime.tryAdmit with
    | (none, r) => some (s.settled c ctx r)
    | (some lease, r) => some (s.opened c ctx lease r)
  | .borrow i => match s.runtime.retain i with
    | (.error _, r) => some (s.settled c ctx r)
    | (.ok lease, r) => some (s.opened c ctx lease r)
  | .close i => some (s.settled c ctx (s.runtime.release i).2)

/-- One step; a context inside `operation_scope` only takes its locked section. -/
def step : RuntimeStep → Option RuntimeThreads
  | .call k => some { s with runtime := k.run s.runtime }
  | .waitUntilIdle => if s.runtime.isIdle then some s else none
  | .start => some { s with contexts := s.contexts ++ [{}] }
  | .copyContext c => s.contexts[c]?.map fun ctx =>
    { s with contexts := s.contexts ++ [{ current := ctx.current }] }
  | .enter c => s.contexts[c]?.bind fun ctx =>
    if ctx.pending = .idle then
      some { s with contexts := s.contexts.set c { ctx with pending := s.entering ctx } }
    else none
  | .enterOther c => s.contexts[c]?.bind fun ctx =>
    if ctx.pending = .idle then
      some { s with contexts := s.contexts.set c { ctx with
        current := .other, frames := ⟨none, ctx.current⟩ :: ctx.frames } }
    else none
  | .exit c => s.contexts[c]?.bind fun ctx =>
    match ctx.pending, ctx.frames with
    | .idle, frame :: frames =>
      let closed := s.closing frame.scope
      some { s with
        scopes := closed.2
        contexts := s.contexts.set c ⟨frame.token, frames, closed.1⟩ }
    | _, _ => none
  | .locked c => s.contexts[c]?.bind (s.lockedSection c)

/-- The call on the runtime that a step makes. -/
def callOf : RuntimeStep → Option RuntimeCall
  | .call k => some k
  | .locked c => s.contexts[c]?.bind (·.pending.call)
  | _ => none

/-- Any number of threads over a new runtime. -/
def system : System RuntimeThreads RuntimeStep := .ofStep step (· = {})

end RuntimeThreads

/-! ## What a call does -/

namespace ExecutionRuntime

variable {r : ExecutionRuntime} {i : Nat}

/-- The count agrees with the leases. -/
def Counted (r : ExecutionRuntime) : Prop := r.active = r.unreleased

theorem released_eq_false_iff :
    r.released i = false ↔ ∃ lease, r.leases[i]? = some lease ∧ lease.released = false := by
  unfold released
  rcases r.leases[i]? with _ | lease
  · simp
  · simp

theorem unreleased_concat (r : ExecutionRuntime) (active : Int) :
    unreleased { r with active := active, leases := r.leases ++ [{}] } = r.unreleased + 1 := by
  simp [unreleased, List.countP_append]

theorem unreleased_pos (h : r.released i = false) : 0 < r.unreleased := by
  obtain ⟨lease, hl, unreleased⟩ := released_eq_false_iff.1 h
  apply List.countP_pos_iff.2
  exact ⟨lease, List.mem_of_getElem? hl, by simp [unreleased]⟩

theorem unreleased_set (h : r.released i = false) :
    unreleased { r with leases := r.leases.set i { released := true } } + 1 = r.unreleased := by
  have pos := unreleased_pos h
  obtain ⟨lease, hl, unrel⟩ := released_eq_false_iff.1 h
  obtain ⟨bound, rfl⟩ := List.getElem?_eq_some_iff.1 hl
  unfold unreleased at pos ⊢
  rw [List.countP_set bound]
  simp only [unrel, Bool.not_false, if_true, Bool.not_true, Bool.false_eq_true, if_false]
  omega

/-- Releasing a released lease changes nothing. -/
theorem release_of_released (h : r.released i = true) : r.release i = (.ok (), r) := by
  rw [release, if_pos h]

/-- A counted runtime releases an unreleased lease, and the count goes down. -/
theorem release_of_unreleased (count : r.Counted) (h : r.released i = false) :
    r.release i = (.ok (), { r with
      active := r.active - 1
      leases := r.leases.set i { released := true } }) := by
  have pos := unreleased_pos h
  have active : ¬ r.active ≤ 0 := by
    unfold Counted at count
    omega
  rw [release, if_neg (by simp [h]), releaseLocked, if_neg active]

theorem tryAdmit_cases (r : ExecutionRuntime) :
    r.tryAdmit = (none, r) ∨ r.accepting = true ∧ r.stopEvent = false ∧
      r.tryAdmit = (some r.leases.length,
        { r with active := r.active + 1, leases := r.leases ++ [{}] }) := by
  unfold tryAdmit
  split_ifs with refused
  · exact .inl rfl
  · simp only [Bool.or_eq_true, Bool.not_eq_true', not_or, Bool.not_eq_false,
      Bool.not_eq_true] at refused
    exact .inr ⟨refused.1, refused.2, rfl⟩

theorem retain_cases (i : Nat) (r : ExecutionRuntime) :
    r.released i = true ∧
      r.retain i = (.error (.admission "The parent operation lease is already released."), r) ∨
    r.released i = false ∧ r.retain i = (.ok r.leases.length,
      { r with active := r.active + 1, leases := r.leases ++ [{}] }) := by
  unfold retain
  cases h : r.released i with
  | true => exact .inl ⟨rfl, rfl⟩
  | false => exact .inr ⟨rfl, rfl⟩

end ExecutionRuntime

namespace RuntimeCall

open ExecutionRuntime

variable {r : ExecutionRuntime}

/-- What a call does to a counted runtime: nothing, a new lease, a release or the end of
admission. -/
theorem run_cases (count : r.Counted) (k : RuntimeCall) :
    k.run r = r ∨
    ((k = .tryAdmit ∧ r.accepting = true ∧ r.stopEvent = false ∨
        ∃ i, k = .retain i ∧ r.released i = false) ∧
      k.run r = { r with active := r.active + 1, leases := r.leases ++ [{}] }) ∨
    (∃ i, k = .release i ∧ r.released i = false ∧ k.run r = { r with
      active := r.active - 1
      leases := r.leases.set i { released := true } }) ∨
    (k = .beginShutdown ∧ k.run r = { r with accepting := false, stopEvent := true }) ∨
    (k = .setStopEvent ∧ k.run r = { r with stopEvent := true }) := by
  cases k with
  | tryAdmit =>
    rcases tryAdmit_cases r with same | ⟨accepting, running, admitted⟩
    · exact .inl (congrArg Prod.snd same)
    · exact .inr (.inl ⟨.inl ⟨rfl, accepting, running⟩, congrArg Prod.snd admitted⟩)
  | retain i =>
    rcases retain_cases i r with ⟨-, same⟩ | ⟨live, retained⟩
    · exact .inl (congrArg Prod.snd same)
    · exact .inr (.inl ⟨.inr ⟨i, rfl, live⟩, congrArg Prod.snd retained⟩)
  | release i =>
    cases h : r.released i with
    | true => exact .inl (congrArg Prod.snd (release_of_released h))
    | false =>
      exact .inr (.inr (.inl ⟨i, rfl, h, congrArg Prod.snd (release_of_unreleased count h)⟩))
  | beginShutdown => exact .inr (.inr (.inr (.inl ⟨rfl, rfl⟩)))
  | setStopEvent => exact .inr (.inr (.inr (.inr ⟨rfl, rfl⟩)))

/-- Every call keeps the count. -/
theorem run_counted (count : r.Counted) (k : RuntimeCall) : (k.run r).Counted := by
  have equal : r.active = r.unreleased := count
  rcases run_cases count k with h | ⟨-, h⟩ | ⟨i, -, live, h⟩ | ⟨-, h⟩ | ⟨-, h⟩
  · rwa [h]
  · have more := unreleased_concat r (r.active + 1)
    rw [h, Counted, more]
    push_cast
    rw [equal]
  · have fewer := unreleased_set live
    rw [h]
    change r.active - 1 = (unreleased { r with
      leases := r.leases.set i { released := true } } : Int)
    omega
  · rw [h]
    exact count
  · rw [h]
    exact count

/-- Shutdown is permanent. -/
theorem run_accepting (count : r.Counted) (k : RuntimeCall) (h : r.accepting = false) :
    (k.run r).accepting = false := by
  rcases run_cases count k with e | ⟨-, e⟩ | ⟨i, -, -, e⟩ | ⟨-, e⟩ | ⟨-, e⟩ <;> rw [e]
  all_goals exact h

/-- After shutdown has begun only an unreleased lease leads to a new one. -/
theorem run_leases (count : r.Counted) (k : RuntimeCall) (h : r.accepting = false) :
    (k.run r).leases.length = r.leases.length ∨ ∃ i, k = .retain i ∧ r.released i = false := by
  rcases run_cases count k with e | ⟨admitted | retained, -⟩ | ⟨i, -, -, e⟩ | ⟨-, e⟩ | ⟨-, e⟩
  · exact .inl (by rw [e])
  · rw [h] at admitted
    cases admitted.2.1
  · exact .inr retained
  · left
    rw [e]
    exact List.length_set
  · exact .inl (by rw [e])
  · exact .inl (by rw [e])

end RuntimeCall

namespace ExecutionRuntime

variable {r : ExecutionRuntime}

/-- Shutdown has begun and no admitted operation is left. -/
def Drained (r : ExecutionRuntime) : Prop := r.accepting = false ∧ r.active = 0

theorem released_of_idle (count : r.Counted) (idle : r.active = 0) (i : Nat) :
    r.released i = true := by
  by_contra live
  have pos := unreleased_pos (Bool.eq_false_iff.2 live)
  unfold Counted at count
  omega

/-- No call takes a drained runtime out of its state or creates a lease. -/
theorem Drained.run (count : r.Counted) (h : r.Drained) (k : RuntimeCall) :
    (k.run r).Drained ∧ (k.run r).leases = r.leases := by
  have released := released_of_idle count h.2
  rcases RuntimeCall.run_cases count k with e | ⟨admitted | ⟨i, -, live⟩, -⟩ | ⟨i, -, live, -⟩ |
    ⟨-, e⟩ | ⟨-, e⟩
  · rw [e]
    exact ⟨h, rfl⟩
  · rw [h.1] at admitted
    cases admitted.2.1
  · rw [released i] at live
    cases live
  · rw [released i] at live
    cases live
  · rw [e]
    exact ⟨⟨rfl, h.2⟩, rfl⟩
  · rw [e]
    exact ⟨h, rfl⟩

theorem Drained.tryAdmit_eq (h : r.Drained) : r.tryAdmit = (none, r) := by
  rcases tryAdmit_cases r with e | ⟨accepting, -⟩
  · exact e
  · rw [h.1] at accepting
    cases accepting

theorem Drained.retain_eq (count : r.Counted) (h : r.Drained) (i : Nat) :
    r.retain i = (.error (.admission "The parent operation lease is already released."), r) := by
  rcases retain_cases i r with ⟨-, e⟩ | ⟨live, -⟩
  · exact e
  · rw [released_of_idle count h.2 i] at live
    cases live

end ExecutionRuntime

/-! ## Runs -/

namespace RuntimeThreads

open ExecutionRuntime

variable {s s' : RuntimeThreads} {l : RuntimeStep}

theorem lockedSection_runtime {c : Nat} {ctx : ExecutionContext}
    (h : s.lockedSection c ctx = some s') :
    ∃ k, ctx.pending.call = some k ∧ s'.runtime = k.run s.runtime := by
  unfold lockedSection at h
  cases pending : ctx.pending with
  | idle =>
    simp only [pending] at h
    cases h
  | tryAdmit =>
    refine ⟨.tryAdmit, rfl, ?_⟩
    simp only [pending] at h
    change s'.runtime = s.runtime.tryAdmit.2
    generalize s.runtime.tryAdmit = result at h ⊢
    obtain ⟨_ | lease, r⟩ := result <;> cases h <;> rfl
  | borrow i =>
    refine ⟨.retain i, rfl, ?_⟩
    simp only [pending] at h
    change s'.runtime = (s.runtime.retain i).2
    generalize s.runtime.retain i = result at h ⊢
    obtain ⟨_ | lease, r⟩ := result <;> cases h <;> rfl
  | close i =>
    simp only [pending] at h
    cases h
    exact ⟨.release i, rfl, rfl⟩

/-- A step makes one call on the runtime, or leaves it as it is. -/
theorem step_runtime (h : s.step l = some s') :
    s'.runtime = s.runtime ∨ ∃ k, s.callOf l = some k ∧ s'.runtime = k.run s.runtime := by
  cases l with
  | call k =>
    cases h
    exact .inr ⟨k, rfl, rfl⟩
  | waitUntilIdle =>
    simp only [step] at h
    split_ifs at h
    cases h
    exact .inl rfl
  | start =>
    cases h
    exact .inl rfl
  | copyContext c =>
    obtain ⟨ctx, -, rfl⟩ := Option.map_eq_some_iff.1 h
    exact .inl rfl
  | enter c =>
    obtain ⟨ctx, -, h⟩ := Option.bind_eq_some_iff.1 h
    split_ifs at h
    cases h
    exact .inl rfl
  | enterOther c =>
    obtain ⟨ctx, -, h⟩ := Option.bind_eq_some_iff.1 h
    split_ifs at h
    cases h
    exact .inl rfl
  | exit c =>
    obtain ⟨ctx, -, h⟩ := Option.bind_eq_some_iff.1 h
    split at h
    · cases h
      exact .inl rfl
    · cases h
  | locked c =>
    obtain ⟨ctx, found, h⟩ := Option.bind_eq_some_iff.1 h
    obtain ⟨k, call, runtime⟩ := lockedSection_runtime h
    refine .inr ⟨k, ?_, runtime⟩
    simp only [callOf, found, Option.bind_some, call]

/-- The count is right in every state of every run. -/
theorem counted (h : system.Reachable s) : s.runtime.Counted := by
  refine h.invariant (I := fun s => s.runtime.Counted) ?_ ?_
  · rintro s rfl
    rfl
  · intro s l s' _ count hs
    rcases step_runtime hs with same | ⟨k, -, run⟩
    · rwa [same]
    · rw [run]
      exact k.run_counted count

/-- A drained runtime stays drained, without a new lease, however the run goes on. -/
theorem drained_steps (h : system.Reachable s) (drained : s.runtime.Drained)
    (hs : system.Steps s s') : s'.runtime.Drained ∧ s'.runtime.leases = s.runtime.leases := by
  refine h.guarantee (G := fun s s' => s.runtime.Drained →
    s'.runtime.Drained ∧ s'.runtime.leases = s.runtime.leases) ?_ ?_ ?_ hs drained
  · exact fun s drained => ⟨drained, rfl⟩
  · intro s t u first second drained
    obtain ⟨mid, same⟩ := first drained
    obtain ⟨last, same'⟩ := second mid
    exact ⟨last, same'.trans same⟩
  · intro s l s' reachable hs drained
    rcases step_runtime hs with same | ⟨k, -, run⟩
    · rw [same]
      exact ⟨drained, rfl⟩
    · rw [run]
      exact drained.run (counted reachable) k

/-- Shutdown that has begun is permanent. -/
theorem accepting_steps (h : system.Reachable s) (shutdown : s.runtime.accepting = false)
    (hs : system.Steps s s') : s'.runtime.accepting = false := by
  refine h.guarantee (G := fun s s' => s.runtime.accepting = false →
    s'.runtime.accepting = false) ?_ ?_ ?_ hs shutdown
  · exact fun s shutdown => shutdown
  · exact fun s t u first second shutdown => second (first shutdown)
  · intro s l s' reachable hs shutdown
    rcases step_runtime hs with same | ⟨k, -, run⟩
    · rwa [same]
    · rw [run]
      exact k.run_accepting (counted reachable) shutdown

/-- After shutdown has begun a step creates a lease only by retaining an unreleased one. -/
theorem step_leases (h : system.Reachable s) (shutdown : s.runtime.accepting = false)
    (hs : s.step l = some s') :
    s'.runtime.leases.length = s.runtime.leases.length ∨
      ∃ i, s.callOf l = some (.retain i) ∧ s.runtime.released i = false := by
  rcases step_runtime hs with same | ⟨k, call, run⟩
  · exact .inl (by rw [same])
  · rcases k.run_leases (counted h) shutdown with same | ⟨i, rfl, live⟩
    · exact .inl (by rw [run, same])
    · exact .inr ⟨i, call, live⟩

/-- The count is right, a lease is released once, and a runtime that is idle after `begin_shutdown`
has no admitted work and never admits any. -/
theorem draining_is_sound (h : system.Reachable s) :
    (s.runtime.active = s.runtime.unreleased ∧ 0 ≤ s.runtime.active) ∧
    (∀ i, (s.runtime.release i).1 = .ok () ∧
      (s.runtime.released i = true → s.runtime.release i = (.ok (), s.runtime))) ∧
    (∀ s₁ s₂, s.step (.call .beginShutdown) = some s₁ → system.Steps s₁ s₂ →
      s₂.runtime.accepting = false) ∧
    (s.runtime.accepting = false → ∀ l s', s.step l = some s' →
      s'.runtime.leases.length = s.runtime.leases.length ∨
        ∃ i, s.callOf l = some (.retain i) ∧ s.runtime.released i = false) ∧
    (s.runtime.accepting = false → s.runtime.active = 0 → ∀ s', system.Steps s s' →
      s'.runtime.active = 0 ∧ s'.runtime.leases = s.runtime.leases) ∧
    ∀ s₁ s₂, s.runtime.accepting = false → s.step .waitUntilIdle = some s₁ →
      system.Steps s₁ s₂ → (∀ i, s₂.runtime.released i = true) ∧
        s₂.runtime.tryAdmit = (none, s₂.runtime) ∧
        ∀ i, s₂.runtime.retain i =
          (.error (.admission "The parent operation lease is already released."), s₂.runtime) := by
  have count := counted h
  refine ⟨⟨count, ?_⟩, ?_, ?_, fun shutdown l s' => step_leases h shutdown, ?_, ?_⟩
  · rw [count]
    apply Int.natCast_nonneg
  · intro i
    refine ⟨?_, release_of_released⟩
    cases live : s.runtime.released i with
    | true => rw [release_of_released live]
    | false => rw [release_of_unreleased count live]
  · intro s₁ s₂ shutdown steps
    refine accepting_steps (h.step shutdown) ?_ steps
    cases shutdown
    rfl
  · intro shutdown idle s' steps
    obtain ⟨drained, same⟩ := drained_steps h ⟨shutdown, idle⟩ steps
    exact ⟨drained.2, same⟩
  · intro s₁ s₂ shutdown waited steps
    simp only [step] at waited
    split_ifs at waited with idle
    cases waited
    have drained : s.runtime.Drained := ⟨shutdown, of_decide_eq_true idle⟩
    obtain ⟨drained', -⟩ := drained_steps h drained steps
    have count' := counted (h.steps steps)
    exact ⟨released_of_idle count' drained'.2, drained'.tryAdmit_eq, drained'.retain_eq count'⟩

/-- A scope is borrowed after shutdown has begun, and both are closed. -/
theorem draining_is_sound_borrowed :
    ∃ s s', run step {} [.start, .enter 0, .locked 0, .call .beginShutdown, .enter 0, .locked 0,
        .exit 0, .locked 0, .exit 0, .locked 0] = some s ∧
      s.runtime.accepting = false ∧ s.runtime.leases.length = 2 ∧
      s.step .waitUntilIdle = some s' ∧ s'.runtime.tryAdmit = (none, s'.runtime) := by
  refine ⟨_, _, rfl, rfl, rfl, rfl, ?_⟩
  have replay : run step {} [.start, .enter 0, .locked 0, .call .beginShutdown, .enter 0, .locked 0,
    .exit 0, .locked 0, .exit 0, .locked 0] = some _ := rfl
  have reached : system.Reachable _ := ⟨{}, rfl, steps_of_run replay⟩
  exact ((draining_is_sound reached).2.2.2.2.2 _ _ rfl rfl .refl).2.1

end RuntimeThreads

end DataMover
