import Mathlib

/-!
# Programs that make requests

A program is a tree of requests to its surroundings, each answered with a value or with an exception,
and ends by returning or raising.  A `Protocol` watches the requests and answers of a program in a
state of its own and says which request is allowed next.  `Program.Sat` is the logic of programs under
a protocol: every request made is allowed, and the postcondition holds of the outcome.  Its rules
follow the constructions of programs; `Program.Sat.runs` carries it along a run.
-/

/-- A program with requests `C`, answers `A`, exceptions `ε` and result `α`. -/
inductive Program {C : Type} (A : C → Type) (ε α : Type) where
  | pure (a : α)
  | throw (e : ε)
  | request (c : C) (next : Except ε (A c) → Program A ε α)

namespace Program

variable {C : Type} {A : C → Type} {ε α β σ : Type}

/-! ## Constructions -/

/-- Run `f` on the result of a program. -/
def bind : Program A ε α → (α → Program A ε β) → Program A ε β
  | pure a, f => f a
  | throw e, _ => throw e
  | request c next, f => request c fun r => (next r).bind f

instance : Monad (Program A ε) where
  pure := Program.pure
  bind := Program.bind

/-- The outcome of a program as a value. -/
def attempt : Program A ε α → Program A ε (Except ε α)
  | pure a => pure (.ok a)
  | throw e => pure (.error e)
  | request c next => request c fun r => (next r).attempt

/-- Return a value or raise an exception. -/
def lift : Except ε α → Program A ε α
  | .ok a => pure a
  | .error e => throw e

/-- Make one request, and raise when it is answered with an exception. -/
def call (c : C) : Program A ε (A c) := request c lift

/-- The request a program makes next. -/
def head : Program A ε α → Option C
  | request c _ => some c
  | _ => none

/-! ## Runs -/

/-- A request with its answer. -/
abbrev Event (A : C → Type) (ε : Type) := (c : C) × Except ε (A c)

/-- The program reaches the second program after the events. -/
inductive Runs : Program A ε α → List (Event A ε) → Program A ε α → Prop
  | refl (p : Program A ε α) : Runs p [] p
  | step {c : C} {next : Except ε (A c) → Program A ε α} {r : Except ε (A c)}
      {events : List (Event A ε)} {q : Program A ε α} (h : Runs (next r) events q) :
      Runs (request c next) (⟨c, r⟩ :: events) q

theorem Runs.split {p q : Program A ε α} {xs ys : List (Event A ε)} (h : Runs p (xs ++ ys) q) :
    ∃ m, Runs p xs m ∧ Runs m ys q := by
  induction xs generalizing p with
  | nil => exact ⟨p, .refl p, h⟩
  | cons x xs ih =>
    cases h with
    | step h =>
      obtain ⟨m, first, rest⟩ := ih h
      exact ⟨m, .step first, rest⟩

/-- Answer the first `n` requests of a program. -/
def play (answer : (c : C) → Except ε (A c)) :
    Nat → Program A ε α → List (Event A ε) × Program A ε α
  | n + 1, request c next =>
    let rest := play answer n (next (answer c))
    (⟨c, answer c⟩ :: rest.1, rest.2)
  | _, p => ([], p)

theorem runs_play (answer : (c : C) → Except ε (A c)) (n : Nat) (p : Program A ε α) :
    Runs p (play answer n p).1 (play answer n p).2 := by
  induction n generalizing p with
  | zero => cases p <;> exact .refl _
  | succ n ih =>
    cases p with
    | pure a => exact .refl _
    | throw e => exact .refl _
    | request c next => exact .step (ih (next (answer c)))

/-! ## Servers -/

section Servers

variable {τ ω : Type} (serve : ω → τ → (c : C) → Except ε (A c) × τ)

/-- A server with states `τ` has answered the requests; `ω` is what it cannot decide. -/
inductive Served : τ → List (Event A ε) → τ → Prop
  | nil (t : τ) : Served t [] t
  | cons (o : ω) {t t' : τ} {c : C} {events : List (Event A ε)}
      (rest : Served (serve o t c).2 events t') : Served t (⟨c, (serve o t c).1⟩ :: events) t'

variable {serve}

theorem Served.first {t t' : τ} {c : C} {r : Except ε (A c)} {events : List (Event A ε)}
    (h : Served serve t (⟨c, r⟩ :: events) t') :
    ∃ o, (serve o t c).1 = r ∧ Served serve (serve o t c).2 events t' := by
  generalize hl : (⟨c, r⟩ : Event A ε) :: events = l at h
  cases h with
  | nil => cases hl
  | cons o rest =>
    cases hl
    exact ⟨o, rfl, rest⟩

theorem Served.split {t t' : τ} {xs ys : List (Event A ε)} (h : Served serve t (xs ++ ys) t') :
    ∃ m, Served serve t xs m ∧ Served serve m ys t' := by
  induction xs generalizing t with
  | nil => exact ⟨t, .nil t, h⟩
  | cons x xs ih =>
    cases h with
    | cons o h =>
      obtain ⟨m, first, rest⟩ := ih h
      exact ⟨m, .cons o first, rest⟩

/-- What the server keeps with every answer. -/
theorem Served.keeps {β : Type} {f : τ → β} (keep : ∀ o t c, f (serve o t c).2 = f t) {t t' : τ}
    {events : List (Event A ε)} (h : Served serve t events t') : f t' = f t := by
  induction h with
  | nil t => rfl
  | cons o rest ih => exact ih.trans (keep o _ _)

variable (serve)

/-- Let the server answer the first `n` requests of a program. -/
def playServed (o : ω) : Nat → τ → Program A ε α → List (Event A ε) × τ × Program A ε α
  | n + 1, t, request c next =>
    let answer := serve o t c
    let rest := playServed o n answer.2 (next answer.1)
    (⟨c, answer.1⟩ :: rest.1, rest.2)
  | _, t, p => ([], t, p)

theorem runs_playServed (o : ω) (n : Nat) (t : τ) (p : Program A ε α) :
    Runs p (playServed serve o n t p).1 (playServed serve o n t p).2.2 := by
  induction n generalizing t p with
  | zero => cases p <;> exact .refl _
  | succ n ih =>
    cases p with
    | pure a => exact .refl _
    | throw e => exact .refl _
    | request c next => exact .step (ih _ _)

theorem served_playServed (o : ω) (n : Nat) (t : τ) (p : Program A ε α) :
    Served serve t (playServed serve o n t p).1 (playServed serve o n t p).2.1 := by
  induction n generalizing t p with
  | zero => cases p <;> exact .nil _
  | succ n ih =>
    cases p with
    | pure a => exact .nil _
    | throw e => exact .nil _
    | request c next => exact .cons o (ih _ _)

end Servers

end Program

/-! ## Protocols -/

/-- What a program may request, given what has been observed of it so far. -/
structure Protocol {C : Type} (A : C → Type) (ε σ : Type) where
  Allowed : σ → C → Prop
  observe : σ → (c : C) → Except ε (A c) → σ

/-- The state after a list of events. -/
def Protocol.after {C : Type} {A : C → Type} {ε σ : Type} (P : Protocol A ε σ) (s : σ)
    (events : List (Program.Event A ε)) : σ :=
  events.foldl (fun s e => P.observe s e.1 e.2) s

namespace Program

variable {C : Type} {A : C → Type} {ε α β σ : Type} (P : Protocol A ε σ)

/-- Every request of the program is allowed, and `Q` holds of its outcome. -/
def Sat (Q : σ → Except ε α → Prop) : σ → Program A ε α → Prop
  | s, pure a => Q s (.ok a)
  | s, throw e => Q s (.error e)
  | s, request c next => P.Allowed s c ∧ ∀ r, Sat Q (P.observe s c r) (next r)

/-- The postcondition of a program whose result another one works on. -/
def Then (Q : σ → Except ε β → Prop) (f : α → Program A ε β) (s : σ) : Except ε α → Prop
  | .ok a => Sat P Q s (f a)
  | .error e => Q s (.error e)

/-- A condition on the protocol state, unless the program has raised. -/
def Unless {ε σ α : Type} (P : σ → Prop) : σ → Except ε α → Prop
  | s, .ok _ => P s
  | _, .error _ => True

section Rules

variable {P} {Q Q' : σ → Except ε α → Prop} {s : σ}

@[simp] theorem sat_pure {a : α} : Sat P Q s (Pure.pure a) ↔ Q s (.ok a) := Iff.rfl

@[simp] theorem sat_throw {e : ε} : Sat P Q s (throw e) ↔ Q s (.error e) := Iff.rfl

@[simp] theorem sat_lift {x : Except ε α} : Sat P Q s (lift x) ↔ Q s x := by
  cases x <;> exact Iff.rfl

theorem sat_call {c : C} {Q : σ → Except ε (A c) → Prop} :
    Sat P Q s (call c) ↔ P.Allowed s c ∧ ∀ r, Q (P.observe s c r) r := by
  simp only [call, Sat, sat_lift]

/-- A program that satisfies a stronger postcondition satisfies a weaker one. -/
theorem Sat.mono {p : Program A ε α} (h : Sat P Q s p) (weaker : ∀ s r, Q s r → Q' s r) :
    Sat P Q' s p := by
  induction p generalizing s with
  | pure a => exact weaker _ _ h
  | throw e => exact weaker _ _ h
  | request c next ih => exact ⟨h.1, fun r => ih r (h.2 r)⟩

/-- A program that follows a protocol follows a laxer one. -/
theorem Sat.weaken {P' : Protocol A ε σ} {p : Program A ε α} (h : Sat P Q s p)
    (laxer : ∀ s c, P.Allowed s c → P'.Allowed s c) (same : P'.observe = P.observe) :
    Sat P' Q s p := by
  induction p generalizing s with
  | pure a => exact h
  | throw e => exact h
  | request c next ih => exact ⟨laxer s c h.1, fun r => ih r (same ▸ h.2 r)⟩

theorem sat_bind {Q : σ → Except ε β → Prop} {p : Program A ε α} {f : α → Program A ε β} :
    Sat P Q s (p >>= f) ↔ Sat P (Then P Q f) s p := by
  show Sat P Q s (p.bind f) ↔ _
  induction p generalizing s with
  | pure a => exact Iff.rfl
  | throw e => exact Iff.rfl
  | request c next ih => exact and_congr Iff.rfl (forall_congr' fun r => ih r)

theorem sat_attempt {Q : σ → Except ε (Except ε α) → Prop} {p : Program A ε α} :
    Sat P Q s (attempt p) ↔ Sat P (fun s r => Q s (.ok r)) s p := by
  induction p generalizing s with
  | pure a => exact Iff.rfl
  | throw e => exact Iff.rfl
  | request c next ih => exact and_congr Iff.rfl (forall_congr' fun r => ih r)

/-- A request followed by the rest of the program. -/
theorem Sat.call_bind {c : C} {Q : σ → Except ε β → Prop} {f : A c → Program A ε β}
    (allowed : P.Allowed s c) (ok : ∀ a, Sat P Q (P.observe s c (.ok a)) (f a))
    (error : ∀ e, Q (P.observe s c (.error e)) (.error e)) :
    Sat P Q s (call c >>= f) := by
  rw [sat_bind, sat_call]
  refine ⟨allowed, fun r => ?_⟩
  cases r with
  | ok a => exact ok a
  | error e => exact error e

/-- A program with a known specification followed by the rest. -/
theorem Sat.bind {R : σ → Except ε α → Prop} {Q : σ → Except ε β → Prop} {p : Program A ε α}
    {f : α → Program A ε β} (h : Sat P R s p) (ok : ∀ t a, R t (.ok a) → Sat P Q t (f a))
    (error : ∀ t e, R t (.error e) → Q t (.error e)) : Sat P Q s (p >>= f) := by
  refine sat_bind.2 (h.mono fun t r hr => ?_)
  cases r with
  | ok a => exact ok t a hr
  | error e => exact error t e hr

theorem Sat.unless_call {c : C} {I : σ → Prop} {f : A c → Program A ε β}
    (allowed : P.Allowed s c) (ok : ∀ a, Sat P (Unless I) (P.observe s c (.ok a)) (f a)) :
    Sat P (Unless I) s (call c >>= f) :=
  Sat.call_bind allowed ok fun _ => trivial

theorem Sat.unless_bind {I J : σ → Prop} {p : Program A ε α} {f : α → Program A ε β}
    (h : Sat P (Unless I) s p) (ok : ∀ t a, I t → Sat P (Unless J) t (f a)) :
    Sat P (Unless J) s (p >>= f) :=
  h.bind ok fun _ _ _ => trivial

/-- What holds of a program holds of what is left of it after a run. -/
theorem Sat.runs {p q : Program A ε α} {events : List (Event A ε)} (h : Sat P Q s p)
    (run : Runs p events q) : Sat P Q (P.after s events) q := by
  induction run generalizing s with
  | refl p => exact h
  | step run ih => exact ih (h.2 _)

/-- A relation between what is observed of a program and the state of its server that every allowed
request keeps holds at the end of a run. -/
theorem Sat.served {τ ω : Type} {serve : ω → τ → (c : C) → Except ε (A c) × τ} {I : σ → τ → Prop}
    {t t' : τ} {p q : Program A ε α} {events : List (Event A ε)} (h : Sat P Q s p)
    (run : Runs p events q) (served : Served serve t events t')
    (step : ∀ o s t c, P.Allowed s c → I s t → I (P.observe s c (serve o t c).1) (serve o t c).2)
    (init : I s t) : I (P.after s events) t' := by
  induction run generalizing s t with
  | refl p =>
    cases served
    exact init
  | step run ih =>
    cases served with
    | cons o rest => exact ih (h.2 _) rest (step o s t _ h.1 init)

/-- The next request of a program is allowed. -/
theorem Sat.allowed {p : Program A ε α} {c : C} (h : Sat P Q s p) (next : p.head = some c) :
    P.Allowed s c := by
  cases p with
  | request c' k =>
    cases next
    exact h.1
  | pure a => cases next
  | throw e => cases next

end Rules

end Program
