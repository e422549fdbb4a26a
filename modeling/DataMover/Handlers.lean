import DataMover.Program

/-!
# Requests carried out by programs

The requests of a program may be carried out by programs over requests of another kind, which keep a
state of their own: `Program.interpret`.  A program that follows a protocol is carried out within
another protocol when every allowed request is, and when carrying it out keeps a relation between
the two protocol states and the state of the handler (`Sat.interpret`).
-/

namespace Program

variable {C D : Type} {A : C → Type} {B : D → Type} {ε ε' α σ ρ τ : Type}

/-- What carries out a request: a program that answers it and leaves a state. -/
abbrev Handler {C D : Type} (A : C → Type) (B : D → Type) (ε ε' σ : Type) :=
  σ → (c : C) → Program B ε' (Except ε (A c) × σ)

/-- Carry out every request of a program. -/
def interpret (handle : Handler A B ε ε' σ) : σ → Program A ε α → Program B ε' (Except ε α × σ)
  | s, pure a => pure (.ok a, s)
  | s, throw e => pure (.error e, s)
  | s, request c next => (handle s c).bind fun r => interpret handle r.2 (next r.1)

/-- A program that raises nothing and whose result is good. -/
def Returning {ε τ α : Type} (Q : τ → α → Prop) : τ → Except ε α → Prop
  | t, .ok a => Q t a
  | _, .error _ => False

variable {P : Protocol A ε ρ} {R : Protocol B ε' τ}

/-- A handler that keeps a relation while it carries out the allowed requests carries out every
program that makes no others. -/
theorem Sat.interpret {handle : Handler A B ε ε' σ} {I : ρ → σ → τ → Prop}
    {Q : ρ → Except ε α → Prop}
    (carries : ∀ p s t c, P.Allowed p c → I p s t →
      Sat R (Returning fun t r => I (P.observe p c r.1) r.2 t) t (handle s c))
    {p : ρ} {s : σ} {t : τ} {prog : Program A ε α} (h : Sat P Q p prog) (init : I p s t) :
    Sat R (Returning fun t r => ∃ p, I p r.2 t ∧ Q p r.1) t (interpret handle s prog) := by
  induction prog generalizing p s t with
  | pure a => exact ⟨p, init, h⟩
  | throw e => exact ⟨p, init, h⟩
  | request c next ih =>
    refine Sat.bind (carries p s t c h.1 init) (fun t r kept => ?_) fun t e raised => raised.elim
    exact ih r.1 (h.2 r.1) kept

end Program
