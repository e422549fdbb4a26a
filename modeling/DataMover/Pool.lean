import DataMover.Program
import DataMover.Transition

/-!
# Programs side by side

Any number of programs over one shared server.  A thread is a program at some point of its execution
together with the protocol state of what has been observed of it; the server answers the requests of
all threads one at a time, and may let a thread wait.  When every program follows the protocol, an
invariant of the server and the protocol states only has to be kept by the requests that the protocol
allows (`Workload.invariant`).
-/

namespace Program

open Transition

variable {C : Type} {A : C → Type} {ε α σ τ κ ω : Type}

/-- A program with what has been observed of it. -/
structure Thread (A : C → Type) (ε α σ : Type) where
  program : Program A ε α
  view : σ

/-- The shared server and the threads that were ever started. -/
structure Pool (A : C → Type) (ε α σ τ : Type) where
  shared : τ
  threads : List (Thread A ε α σ) := []

/-- The protocol states of the threads. -/
def Pool.views (s : Pool A ε α σ τ) : List σ := s.threads.map Thread.view

/-- A call starts, or the server answers the request of a thread. -/
inductive Turn (κ ω : Type) where
  | start (k : κ)
  | answer (i : Nat) (o : ω)

/-- Calls `κ` with their programs, and a server that answers the thread `i`, or lets it wait. -/
structure Workload (A : C → Type) (ε α σ τ κ ω : Type) where
  protocol : Protocol A ε σ
  program : κ → Program A ε α
  view : κ → σ
  serve : ω → Nat → τ → (c : C) → Option (Except ε (A c) × τ)

namespace Workload

variable (W : Workload A ε α σ τ κ ω)

/-- The state after the request of the thread `i` was answered. -/
def answered (s : Pool A ε α σ τ) (i : Nat) (view : σ) (c : C)
    (next : Except ε (A c) → Program A ε α) (r : Except ε (A c)) (shared : τ) :
    Pool A ε α σ τ where
  shared := shared
  threads := s.threads.set i ⟨next r, W.protocol.observe view c r⟩

/-- One turn; `none` when it cannot be taken now. -/
def step (s : Pool A ε α σ τ) : Turn κ ω → Option (Pool A ε α σ τ)
  | .start k => some { s with threads := s.threads ++ [⟨W.program k, W.view k⟩] }
  | .answer i o => (s.threads[i]?).bind fun thread =>
    match thread.program with
    | .request c next =>
      (W.serve o i s.shared c).map fun a => W.answered s i thread.view c next a.1 a.2
    | _ => none

/-- All interleavings of the calls. -/
def system (init : τ → Prop) : System (Pool A ε α σ τ) (Turn κ ω) :=
  System.ofStep W.step fun s => init s.shared ∧ s.threads = []

/-- Every program follows the protocol. -/
def Follows : Prop := ∀ k, Sat W.protocol (fun _ _ => True) (W.view k) (W.program k)

variable {W} {init : τ → Prop} {ok : Pool A ε α σ τ → Turn κ ω → Prop} {s s' : Pool A ε α σ τ}

theorem step_cases {turn : Turn κ ω} (h : W.step s turn = some s') :
    (∃ k, turn = .start k ∧ s' = { s with threads := s.threads ++ [⟨W.program k, W.view k⟩] }) ∨
    ∃ i o thread c next r shared, turn = .answer i o ∧ s.threads[i]? = some thread ∧
      thread.program = .request c next ∧ W.serve o i s.shared c = some (r, shared) ∧
      s' = W.answered s i thread.view c next r shared := by
  cases turn with
  | start k =>
    cases h
    exact .inl ⟨k, rfl, rfl⟩
  | answer i o =>
    obtain ⟨thread, ht, h⟩ := Option.bind_eq_some_iff.1 h
    split at h
    · rename_i c next hp
      obtain ⟨⟨r, shared⟩, hs, rfl⟩ := Option.map_eq_some_iff.1 h
      exact .inr ⟨i, o, thread, c, next, r, shared, rfl, ht, hp, hs, rfl⟩
    · cases h

theorem views_answered (s : Pool A ε α σ τ) (i : Nat) (view : σ) (c : C)
    (next : Except ε (A c) → Program A ε α) (r : Except ε (A c)) (shared : τ) :
    (W.answered s i view c next r shared).views =
      s.views.set i (W.protocol.observe view c r) := by
  simp only [answered, Pool.views, List.map_set]

theorem getElem?_views {i : Nat} {thread : Thread A ε α σ} (h : s.threads[i]? = some thread) :
    s.views[i]? = some thread.view := by
  rw [Pool.views, List.getElem?_map, h]
  rfl

/-- The views after one of them has changed. -/
theorem getElem?_set_cases {views : List σ} {i j : Nat} {view w : σ}
    (h : (views.set i view)[j]? = some w) : j = i ∧ w = view ∨ j ≠ i ∧ views[j]? = some w := by
  rw [List.getElem?_set] at h
  split_ifs at h with same bound
  · exact .inl ⟨same.symm, (Option.some.inj h).symm⟩
  · exact .inr ⟨fun e => same e.symm, h⟩

theorem getElem?_set_self {views : List σ} {i : Nat} {view : σ} (view' : σ)
    (h : views[i]? = some view) : (views.set i view')[i]? = some view' := by
  obtain ⟨bound, -⟩ := List.getElem?_eq_some_iff.1 h
  exact List.getElem?_set_self bound

theorem getElem?_concat_cases {views : List σ} {j : Nat} {view w : σ}
    (h : (views ++ [view])[j]? = some w) : views[j]? = some w ∨ w = view := by
  rw [List.getElem?_append] at h
  split_ifs at h with bound
  · exact .inl h
  · right
    rw [List.getElem?_singleton] at h
    split_ifs at h
    exact (Option.some.inj h).symm

theorem getElem?_concat_left {views : List σ} {j : Nat} {view w : σ} (h : views[j]? = some w) :
    (views ++ [view])[j]? = some w := by
  obtain ⟨bound, -⟩ := List.getElem?_eq_some_iff.1 h
  rw [List.getElem?_append_left bound, h]

/-- What every program satisfies, what is left of it satisfies. -/
theorem sat_threads {Q : σ → Except ε α → Prop}
    (sat : ∀ k, Sat W.protocol Q (W.view k) (W.program k)) (h : (W.system init).Reachable s) :
    ∀ thread ∈ s.threads, Sat W.protocol Q thread.view thread.program := by
  refine h.invariant ?_ ?_ (I := fun s => ∀ thread ∈ s.threads,
    Sat W.protocol Q thread.view thread.program)
  · intro s hs thread ht
    rw [hs.2] at ht
    cases ht
  · intro s turn s' _ ih hs thread ht
    rcases step_cases hs with ⟨k, -, rfl⟩ | ⟨i, o, th, c, next, r, shared, -, hi, hp, -, rfl⟩
    · rcases List.mem_append.1 ht with ht | ht
      · exact ih thread ht
      · rw [List.mem_singleton.1 ht]
        exact sat k
    · rcases List.mem_or_eq_of_mem_set ht with ht | rfl
      · exact ih thread ht
      · have sat := ih th (List.mem_of_getElem? hi)
        rw [hp] at sat
        exact sat.2 r

/-- What is left of every program follows the protocol. -/
theorem follows_threads (follows : W.Follows) (h : (W.system init).Reachable s) :
    ∀ thread ∈ s.threads, Sat W.protocol (fun _ _ => True) thread.view thread.program :=
  sat_threads follows h

/-- The requests that are answered in a reachable state are allowed. -/
theorem allowed_request (follows : W.Follows) (h : (W.system init).Reachable s) {i : Nat}
    {thread : Thread A ε α σ} {c : C} {next : Except ε (A c) → Program A ε α}
    (ht : s.threads[i]? = some thread) (hp : thread.program = .request c next) :
    W.protocol.Allowed thread.view c := by
  have sat := follows_threads follows h thread (List.mem_of_getElem? ht)
  rw [hp] at sat
  exact sat.1

/-- An invariant of the server and the views that the allowed requests keep, in the runs whose turns
are all good. -/
theorem invariant_restrict (follows : W.Follows) {I : τ → List σ → Prop}
    (start : ∀ t, init t → I t [])
    (call : ∀ t views k, I t views → I t (views ++ [W.view k]))
    (request : ∀ s i o thread c next r shared, ok s (.answer i o) → I s.shared s.views →
      s.threads[i]? = some thread → thread.program = .request c next →
      W.protocol.Allowed thread.view c → W.serve o i s.shared c = some (r, shared) →
      I shared (s.views.set i (W.protocol.observe thread.view c r)))
    (h : ((W.system init).restrict ok).Reachable s) : I s.shared s.views := by
  refine h.invariant (I := fun s => I s.shared s.views) ?_ ?_
  · intro s hs
    rw [Pool.views, hs.2]
    exact start s.shared hs.1
  · intro s turn s' reachable ih hs
    rcases step_cases hs.2 with ⟨k, -, rfl⟩ | ⟨i, o, th, c, next, r, shared, rfl, hi, hp, served, rfl⟩
    · have extended := call s.shared s.views k ih
      rwa [Pool.views, ← List.map_singleton (f := Thread.view) (a := ⟨W.program k, W.view k⟩),
        ← List.map_append] at extended
    · rw [views_answered]
      exact request s i o th c next r shared hs.1 ih hi hp
        (allowed_request follows (.of_restrict reachable) hi hp) served

/-- An invariant of the server and the views that the allowed requests keep. -/
theorem invariant (follows : W.Follows) {I : τ → List σ → Prop} (start : ∀ t, init t → I t [])
    (call : ∀ t views k, I t views → I t (views ++ [W.view k]))
    (request : ∀ t views i o view c r shared, I t views → views[i]? = some view →
      W.protocol.Allowed view c → W.serve o i t c = some (r, shared) →
      I shared (views.set i (W.protocol.observe view c r)))
    (h : (W.system init).Reachable s) : I s.shared s.views := by
  have all := h.restrict (fun _ _ => True) fun _ _ => trivial
  refine invariant_restrict follows start call ?_ all
  intro s i o thread c next r shared _ inv hi _ allowed
  exact request s.shared s.views i o thread.view c r shared inv (getElem?_views hi) allowed

/-- What the allowed requests guarantee under an invariant, along good runs. -/
theorem guarantee_restrict (follows : W.Follows) {I : τ → List σ → Prop} {G : τ → τ → Prop}
    (refl : ∀ t, G t t) (trans : ∀ t u v, G t u → G u v → G t v)
    (inv : ∀ s, ((W.system init).restrict ok).Reachable s → I s.shared s.views)
    (request : ∀ s i o thread c next r shared, ok s (.answer i o) → I s.shared s.views →
      s.threads[i]? = some thread → thread.program = .request c next →
      W.protocol.Allowed thread.view c → W.serve o i s.shared c = some (r, shared) →
      G s.shared shared)
    (h : ((W.system init).restrict ok).Reachable s)
    (steps : ((W.system init).restrict ok).Steps s s') : G s.shared s'.shared := by
  refine h.guarantee (G := fun s s' => G s.shared s'.shared) (fun s => refl s.shared)
    (fun s t u => trans s.shared t.shared u.shared) ?_ steps
  intro s turn s' reachable hs
  rcases step_cases hs.2 with ⟨k, -, rfl⟩ | ⟨i, o, th, c, next, r, shared, rfl, hi, hp, served, rfl⟩
  · exact refl s.shared
  · exact request s i o th c next r shared hs.1 (inv s reachable) hi hp
      (allowed_request follows (.of_restrict reachable) hi hp) served

/-- What the allowed requests guarantee under an invariant, along all runs. -/
theorem guarantee (follows : W.Follows) {I : τ → List σ → Prop} {G : τ → τ → Prop}
    (refl : ∀ t, G t t) (trans : ∀ t u v, G t u → G u v → G t v)
    (inv : ∀ s, (W.system init).Reachable s → I s.shared s.views)
    (request : ∀ t views i o view c r shared, I t views → views[i]? = some view →
      W.protocol.Allowed view c → W.serve o i t c = some (r, shared) → G t shared)
    (h : (W.system init).Reachable s) (steps : (W.system init).Steps s s') :
    G s.shared s'.shared := by
  have all := h.restrict (fun _ _ => True) fun _ _ => trivial
  refine guarantee_restrict follows refl trans (fun s h => inv s (.of_restrict h)) ?_ all
    (System.Steps.restrict steps _ fun _ _ => trivial)
  intro s i o thread c next r shared _ inv hi _ allowed
  exact request s.shared s.views i o thread.view c r shared inv (getElem?_views hi) allowed

/-- What a server keeps from some state on, and what holds of the views of the threads that start
after it. -/
theorem later (follows : W.Follows) {G : τ → Prop} {J : σ → Prop} (h : (W.system init).Reachable s)
    (start : G s.shared) (call : ∀ k, J (W.view k))
    (request : ∀ s i o view c r shared, (W.system init).Reachable s → G s.shared →
      s.views[i]? = some view → W.protocol.Allowed view c →
      W.serve o i s.shared c = some (r, shared) →
      G shared ∧ (J view → J (W.protocol.observe view c r)))
    (steps : (W.system init).Steps s s') : G s'.shared ∧ s.views.length ≤ s'.views.length ∧
      ∀ i view, s.views.length ≤ i → s'.views[i]? = some view → J view := by
  induction steps with
  | refl =>
    refine ⟨start, Nat.le_refl _, fun i view bound hi => ?_⟩
    rw [List.getElem?_eq_none bound] at hi
    cases hi
  | tail steps next ih =>
    obtain ⟨kept, grown, views⟩ := ih
    obtain ⟨turn, taken⟩ := next
    rcases step_cases taken with ⟨k, -, rfl⟩ | ⟨i, o, th, c, next, r, shared, -, hi, hp, served, rfl⟩
    · simp only [Pool.views, List.map_append, List.map_singleton, List.length_append] at *
      refine ⟨kept, by omega, fun i view bound hi => ?_⟩
      rcases getElem?_concat_cases hi with old | rfl
      · exact views i view bound old
      · exact call k
    · have view := getElem?_views hi
      obtain ⟨kept', later⟩ := request _ i o th.view c r shared (h.steps steps) kept view
        (allowed_request follows (h.steps steps) hi hp) served
      rw [views_answered, List.length_set]
      refine ⟨kept', grown, fun j w bound hj => ?_⟩
      rcases getElem?_set_cases hj with ⟨rfl, rfl⟩ | ⟨-, old⟩
      · exact later (views j th.view bound view)
      · exact views j w bound old

end Workload

end Program
