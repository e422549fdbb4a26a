import Mathlib

/-!
# Transition systems

A labelled transition system with its reachable states, the induction rules for invariants and for
what a whole run guarantees, and the restriction of a system to the steps that meet a condition.
-/

namespace Transition

/-- A transition system with states `σ` and labels `ι`. -/
structure System (σ ι : Type*) where
  Init : σ → Prop
  Step : σ → ι → σ → Prop

namespace System

variable {σ ι : Type*} (S : System σ ι)

/-- One step under any label. -/
def Next (s s' : σ) : Prop := ∃ i, S.Step s i s'

/-- Any number of steps. -/
abbrev Steps : σ → σ → Prop := Relation.ReflTransGen S.Next

/-- The states of all runs. -/
def Reachable (s : σ) : Prop := ∃ s₀, S.Init s₀ ∧ S.Steps s₀ s

/-- The system without the steps that violate `ok`. -/
def restrict (ok : σ → ι → Prop) : System σ ι where
  Init := S.Init
  Step s i s' := ok s i ∧ S.Step s i s'

variable {S} {s s' : σ}

theorem Reachable.init (h : S.Init s) : S.Reachable s := ⟨s, h, .refl⟩

theorem Reachable.steps (h : S.Reachable s) (hs : S.Steps s s') : S.Reachable s' :=
  ⟨h.choose, h.choose_spec.1, h.choose_spec.2.trans hs⟩

theorem Reachable.step {i : ι} (h : S.Reachable s) (hs : S.Step s i s') : S.Reachable s' :=
  h.steps (.single ⟨i, hs⟩)

/-- A predicate that holds initially and is kept by every step holds in every reachable state. -/
theorem Reachable.invariant {I : σ → Prop} (init : ∀ s, S.Init s → I s)
    (step : ∀ s i s', S.Reachable s → I s → S.Step s i s' → I s') (h : S.Reachable s) : I s := by
  obtain ⟨s₀, h₀, hs⟩ := h
  induction hs with
  | refl => exact init s₀ h₀
  | tail hs next ih =>
    obtain ⟨i, hi⟩ := next
    exact step _ i _ ⟨s₀, h₀, hs⟩ ih hi

/-- What every step guarantees, and guarantees compose, holds between the ends of a run. -/
theorem Reachable.guarantee {G : σ → σ → Prop} (refl : ∀ s, G s s)
    (trans : ∀ s t u, G s t → G t u → G s u)
    (step : ∀ s i s', S.Reachable s → S.Step s i s' → G s s')
    (h : S.Reachable s) (hs : S.Steps s s') : G s s' := by
  induction hs with
  | refl => exact refl s
  | tail hs next ih =>
    obtain ⟨i, hi⟩ := next
    exact trans _ _ _ ih (step _ i _ (h.steps hs) hi)

/-- The runs of a restricted system are runs of the system. -/
theorem Steps.of_restrict (ok : σ → ι → Prop) (h : (S.restrict ok).Steps s s') : S.Steps s s' :=
  Relation.ReflTransGen.mono (fun _ _ ⟨i, hi⟩ => ⟨i, hi.2⟩) s s' h

theorem Steps.restrict (h : S.Steps s s') (ok : σ → ι → Prop) (all : ∀ s i, ok s i) :
    (S.restrict ok).Steps s s' :=
  Relation.ReflTransGen.mono (fun s _ ⟨i, hi⟩ => ⟨i, all s i, hi⟩) s s' h

theorem Reachable.of_restrict {ok : σ → ι → Prop} (h : (S.restrict ok).Reachable s) :
    S.Reachable s :=
  ⟨h.choose, h.choose_spec.1, Steps.of_restrict ok h.choose_spec.2⟩

theorem Reachable.restrict (h : S.Reachable s) (ok : σ → ι → Prop) (all : ∀ s i, ok s i) :
    (S.restrict ok).Reachable s :=
  ⟨h.choose, h.choose_spec.1, Steps.restrict h.choose_spec.2 ok all⟩

end System

/-! ## Executable systems -/

section Executable

variable {σ ι : Type*} (step : σ → ι → Option σ)

/-- Take the labels in order; `none` when one of them is not enabled. -/
def run (s : σ) : List ι → Option σ
  | [] => some s
  | i :: is => (step s i).bind fun t => run t is

/-- The system of a partial step function. -/
def System.ofStep (init : σ → Prop) : System σ ι where
  Init := init
  Step s i s' := step s i = some s'

variable {step}

/-- A trace that can be replayed is a run; when all its labels are good, it is a good run. -/
theorem restrict_steps_of_run {init : σ → Prop} {ok : σ → ι → Prop} {s s' : σ} {is : List ι}
    (good : ∀ i ∈ is, ∀ s, ok s i) (h : run step s is = some s') :
    ((System.ofStep step init).restrict ok).Steps s s' := by
  induction is generalizing s with
  | nil =>
    cases h
    exact .refl
  | cons i is ih =>
    obtain ⟨t, ht, hr⟩ := Option.bind_eq_some_iff.1 h
    exact .head ⟨i, good i List.mem_cons_self s, ht⟩
      (ih (fun j hj => good j (List.mem_cons_of_mem i hj)) hr)

/-- Take a step only when it is good. -/
def checked (good : σ → ι → Bool) (step : σ → ι → Option σ) (s : σ) (i : ι) : Option σ :=
  if good s i then step s i else none

/-- A trace that can be replayed with every step checked is a good run. -/
theorem restrict_steps_of_checked {init : σ → Prop} {ok : σ → ι → Prop} {good : σ → ι → Bool}
    {s s' : σ} {is : List ι} (sound : ∀ s i, good s i = true → ok s i)
    (h : run (checked good step) s is = some s') :
    ((System.ofStep step init).restrict ok).Steps s s' := by
  induction is generalizing s with
  | nil =>
    cases h
    exact .refl
  | cons i is ih =>
    obtain ⟨t, ht, hr⟩ := Option.bind_eq_some_iff.1 h
    unfold checked at ht
    split at ht
    · exact .head ⟨i, sound s i (by assumption), ht⟩ (ih hr)
    · cases ht

/-- A trace with every step checked is a trace. -/
theorem run_of_checked {good : σ → ι → Bool} {s s' : σ} {is : List ι}
    (h : run (checked good step) s is = some s') : run step s is = some s' := by
  induction is generalizing s with
  | nil => exact h
  | cons i is ih =>
    obtain ⟨t, ht, hr⟩ := Option.bind_eq_some_iff.1 h
    unfold checked at ht
    split at ht
    · exact Option.bind_eq_some_iff.2 ⟨t, ht, ih hr⟩
    · cases ht

theorem steps_of_run {init : σ → Prop} {s s' : σ} {is : List ι} (h : run step s is = some s') :
    (System.ofStep step init).Steps s s' :=
  System.Steps.of_restrict (fun _ _ => True)
    (restrict_steps_of_run (fun _ _ _ => trivial) h)

end Executable

end Transition
