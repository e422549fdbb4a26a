import DataMover.Program

/-!
# Programs under interference

A program makes requests to a world that other parties change as well, between any two requests.  A
program meets a postcondition when each of its requests has an assertion that others keep and from which
every answer leads to a program that meets it; what is met holds at the end of every run, and later.
-/

namespace Program

variable {C : Type} {A : C → Type} {ε α β τ : Type}

/-- What answers the requests of a program, what other parties do meanwhile, and what happens besides
when the program has returned. -/
structure World {C : Type} (A : C → Type) (ε τ : Type) where
  Answers : τ → (c : C) → Except ε (A c) → τ → Prop
  Others : τ → τ → Prop
  Ends : τ → τ → Prop

namespace World

variable (W : World A ε τ)

/-- A step of the world with a program. -/
inductive Step : τ × Program A ε α → τ × Program A ε α → Prop
  | others {t t' : τ} {p : Program A ε α} (h : W.Others t t') : Step (t, p) (t', p)
  | answer {t t' : τ} {c : C} {r : Except ε (A c)} {next : Except ε (A c) → Program A ε α}
      (h : W.Answers t c r t') : Step (t, .request c next) (t', next r)
  | ends {t t' : τ} {a : α} (h : W.Ends t t') : Step (t, .pure a) (t', .pure a)

/-- Any number of steps. -/
abbrev Steps : τ × Program A ε α → τ × Program A ε α → Prop := Relation.ReflTransGen W.Step

/-- The assertion survives what others do. -/
def Keeps (I : τ → Prop) : Prop := ∀ t t', W.Others t t' → I t → I t'

/-- The postcondition holds when the program returns. -/
def Meets (P : τ → α → Prop) : τ → Program A ε α → Prop
  | t, .pure a => P t a
  | _, .throw _ => True
  | t, .request c next =>
    ∃ I : τ → Prop, W.Keeps I ∧ I t ∧ ∀ t' r t'', I t' → W.Answers t' c r t'' → Meets P t'' (next r)

variable {W} {P : τ → α → Prop}

theorem Keeps.and {I J : τ → Prop} (hI : W.Keeps I) (hJ : W.Keeps J) :
    W.Keeps fun t => I t ∧ J t :=
  fun t t' h hs => ⟨hI t t' h hs.1, hJ t t' h hs.2⟩

theorem Meets.mono {P' : τ → α → Prop} {t : τ} {p : Program A ε α} (h : W.Meets P t p)
    (weaker : ∀ t a, P t a → P' t a) : W.Meets P' t p := by
  induction p generalizing t with
  | pure a => exact weaker t a h
  | throw e => trivial
  | request c next ih =>
    obtain ⟨I, keeps, start, rest⟩ := h
    exact ⟨I, keeps, start, fun t' r t'' hI ha => ih r (rest t' r t'' hI ha)⟩

theorem Meets.bind {Q : τ → β → Prop} {f : α → Program A ε β} {t : τ} {p : Program A ε α}
    (h : W.Meets (fun t a => W.Meets Q t (f a)) t p) : W.Meets Q t (p >>= f) := by
  induction p generalizing t with
  | pure a => exact h
  | throw e => trivial
  | request c next ih =>
    obtain ⟨I, keeps, start, rest⟩ := h
    exact ⟨I, keeps, start, fun t' r t'' hI ha => ih r (rest t' r t'' hI ha)⟩

/-- A request followed by the rest of the program, under an assertion that others keep. -/
theorem Meets.call_bind {Q : τ → β → Prop} {c : C} {f : A c → Program A ε β} {t : τ}
    {I : τ → Prop} (keeps : W.Keeps I) (start : I t)
    (rest : ∀ t' a t'', I t' → W.Answers t' c (.ok a) t'' → W.Meets Q t'' (f a)) :
    W.Meets Q t (call c >>= f) := by
  refine ⟨I, keeps, start, fun t' r t'' hI ha => ?_⟩
  cases r with
  | ok a => exact rest t' a t'' hI ha
  | error e => trivial

/-- A last request. -/
theorem Meets.call {c : C} {P : τ → A c → Prop} {t : τ} {I : τ → Prop} (keeps : W.Keeps I)
    (start : I t) (rest : ∀ t' a t'', I t' → W.Answers t' c (.ok a) t'' → P t'' a) :
    W.Meets P t (call c) := by
  refine ⟨I, keeps, start, fun t' r t'' hI ha => ?_⟩
  cases r with
  | ok a => exact rest t' a t'' hI ha
  | error e => trivial

/-- What is met is met after a step, when the postcondition survives what others do. -/
theorem Meets.step (keeps : ∀ a, W.Keeps fun t => P t a)
    (ends : ∀ t t' a, W.Ends t t' → P t a → P t' a) {s s' : τ × Program A ε α}
    (h : W.Meets P s.1 s.2) (step : W.Step s s') : W.Meets P s'.1 s'.2 := by
  cases step with
  | others ho =>
    rename_i t t' p
    cases p with
    | pure a => exact keeps a t t' ho h
    | throw e => trivial
    | request c next =>
      obtain ⟨I, kept, start, rest⟩ := h
      exact ⟨I, kept, kept t t' ho start, rest⟩
  | answer ha =>
    obtain ⟨I, -, start, rest⟩ := h
    exact rest _ _ _ start ha
  | ends he => exact ends _ _ _ he h

/-- In every run the postcondition holds from the return of the program on. -/
theorem Meets.steps (keeps : ∀ a, W.Keeps fun t => P t a)
    (ends : ∀ t t' a, W.Ends t t' → P t a → P t' a) {s s' : τ × Program A ε α}
    (h : W.Meets P s.1 s.2) (steps : W.Steps s s') : W.Meets P s'.1 s'.2 := by
  induction steps with
  | refl => exact h
  | tail _ last ih => exact ih.step keeps ends last

end World

end Program
