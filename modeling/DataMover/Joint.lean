import DataMover.Program

/-!
# Two protocols of one program

A program that follows two protocols follows them side by side (`Sat.both`), and what every
observation keeps holds at its end (`Sat.keeps`).  A program whose requests are all of one kind
(`Confined`) follows every protocol that allows this kind and keeps what these requests keep
(`Confined.sat`); what is known of its outcome by one protocol is known by another one that observes
alike (`Sat.confined`).
-/

/-! ## Side by side -/

/-- Both protocols. -/
def Protocol.both {C : Type} {A : C → Type} {ε σ τ : Type} (P : Protocol A ε σ)
    (R : Protocol A ε τ) : Protocol A ε (σ × τ) where
  Allowed s c := P.Allowed s.1 c ∧ R.Allowed s.2 c
  observe s c r := (P.observe s.1 c r, R.observe s.2 c r)

namespace Program

variable {C : Type} {A : C → Type} {ε α β σ τ : Type}

theorem Sat.both {P : Protocol A ε σ} {R : Protocol A ε τ} {Q : σ → Except ε α → Prop}
    {Q' : τ → Except ε α → Prop} {s : σ} {t : τ} {p : Program A ε α} (h : Sat P Q s p)
    (k : Sat R Q' t p) : Sat (P.both R) (fun s r => Q s.1 r ∧ Q' s.2 r) (s, t) p := by
  induction p generalizing s t with
  | pure a => exact ⟨h, k⟩
  | throw e => exact ⟨h, k⟩
  | request c next ih => exact ⟨⟨h.1, k.1⟩, fun r => ih r (h.2 r) (k.2 r)⟩

/-- What every observation keeps holds at the end. -/
theorem Sat.keeps {P : Protocol A ε σ} {Q : σ → Except ε α → Prop} {J : σ → Prop} {s : σ}
    {p : Program A ε α} (h : Sat P Q s p) (init : J s)
    (kept : ∀ s c r, J s → J (P.observe s c r)) : Sat P (fun s r => Q s r ∧ J s) s p := by
  induction p generalizing s with
  | pure a => exact ⟨h, init⟩
  | throw e => exact ⟨h, init⟩
  | request c next ih => exact ⟨h.1, fun r => ih r (h.2 r) (kept s c r init)⟩

/-! ## One kind of requests -/

/-- All requests of the program are in the set. -/
def Confined (S : C → Prop) : Program A ε α → Prop
  | pure _ => True
  | throw _ => True
  | request c next => S c ∧ ∀ r, Confined S (next r)

variable {S : C → Prop}

@[simp] theorem confined_lift {x : Except ε α} : Confined S (lift x : Program A ε α) := by
  cases x <;> trivial

theorem confined_call {c : C} (h : S c) : Confined S (call c : Program A ε (A c)) :=
  ⟨h, fun _ => confined_lift⟩

theorem Confined.bind {p : Program A ε α} {f : α → Program A ε β} (h : Confined S p)
    (rest : ∀ a, Confined S (f a)) : Confined S (p >>= f) := by
  show Confined S (p.bind f)
  induction p with
  | pure a => exact rest a
  | throw e => trivial
  | request c next ih => exact ⟨h.1, fun r => ih r (h.2 r)⟩

theorem Confined.attempt {p : Program A ε α} (h : Confined S p) : Confined S (attempt p) := by
  induction p with
  | pure a => trivial
  | throw e => trivial
  | request c next ih => exact ⟨h.1, fun r => ih r (h.2 r)⟩

/-- A request followed by a confined program. -/
theorem confined_call_bind {c : C} {f : A c → Program A ε β} (h : S c)
    (rest : ∀ a, Confined S (f a)) : Confined S (call c >>= f) :=
  (confined_call h).bind rest

theorem Confined.sat {P : Protocol A ε σ} {I : σ → Prop} {s : σ} {p : Program A ε α}
    (h : Confined S p) (init : I s)
    (keeps : ∀ s c, I s → S c → P.Allowed s c ∧ ∀ r, I (P.observe s c r)) :
    Sat P (fun s _ => I s) s p := by
  induction p generalizing s with
  | pure a => exact init
  | throw e => exact init
  | request c next ih =>
    obtain ⟨allowed, kept⟩ := keeps s c init h.1
    exact ⟨allowed, fun r => ih r (h.2 r) (kept r)⟩

theorem confined_true (p : Program A ε α) : Confined (fun _ => True) p := by
  induction p with
  | pure a => trivial
  | throw e => trivial
  | request c next ih => exact ⟨trivial, ih⟩

theorem Sat.confined {P R : Protocol A ε σ} {Q : σ → Except ε α → Prop} {s : σ}
    {p : Program A ε α} (h : Sat P Q s p) (confined : Confined S p)
    (allowed : ∀ s c, S c → R.Allowed s c) (same : R.observe = P.observe) : Sat R Q s p := by
  induction p generalizing s with
  | pure a => exact h
  | throw e => exact h
  | request c next ih =>
    exact ⟨allowed s c confined.1, fun r => ih r (same ▸ h.2 r) (confined.2 r)⟩

end Program
