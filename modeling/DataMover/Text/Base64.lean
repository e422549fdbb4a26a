import Mathlib

/-!
# Base64

`base64.urlsafe_b64encode`, and `base64.b64decode` with `altchars=b"-_"` and `validate=True`.  The reader
also takes the letters of the standard alphabet and ignores the spare bits of the last letter, so several
texts stand for the same bytes; the writer makes one of them.
-/

namespace Base64

/-- The URL-safe alphabet. -/
def alphabet : List Char :=
  "ABCDEFGHIJKLMNOPQRSTUVWXYZabcdefghijklmnopqrstuvwxyz0123456789-_".toList

def letter (n : Nat) : Char := alphabet.getD n 'A'

/-- `base64.urlsafe_b64encode(data)`. -/
def encode : List UInt8 → List Char
  | a :: b :: c :: rest =>
    letter (a.toNat / 4) :: letter (a.toNat % 4 * 16 + b.toNat / 16) ::
      letter (b.toNat % 16 * 4 + c.toNat / 64) :: letter (c.toNat % 64) :: encode rest
  | [a, b] =>
    [letter (a.toNat / 4), letter (a.toNat % 4 * 16 + b.toNat / 16), letter (b.toNat % 16 * 4), '=']
  | [a] => [letter (a.toNat / 4), letter (a.toNat % 4 * 16), '=', '=']
  | [] => []

/-- The six bits of a letter; `+` and `/` are what `-` and `_` are translated to. -/
def sextet (c : Char) : Option Nat :=
  if c = '+' then some 62
  else if c = '/' then some 63
  else alphabet.idxOf? c

/-- `base64.b64decode(text, altchars=b"-_", validate=True)`; `none` is `ValueError`. -/
def decode : List Char → Option (List UInt8)
  | [] => some []
  | [a, b, '=', '='] => do
    let a ← sextet a
    let b ← sextet b
    return [UInt8.ofNat (a * 4 + b / 16)]
  | [a, b, c, '='] => do
    let a ← sextet a
    let b ← sextet b
    let c ← sextet c
    return [UInt8.ofNat (a * 4 + b / 16), UInt8.ofNat (b % 16 * 16 + c / 4)]
  | a :: b :: c :: d :: rest => do
    let a ← sextet a
    let b ← sextet b
    let c ← sextet c
    let d ← sextet d
    let rest ← decode rest
    return UInt8.ofNat (a * 4 + b / 16) :: UInt8.ofNat (b % 16 * 16 + c / 4) ::
      UInt8.ofNat (c % 4 * 64 + d) :: rest
  | _ => none

/-! ## Bytes come back -/

theorem sextet_letter {n : Nat} (h : n < 64) : sextet (letter n) = some n := by
  have all : ∀ k < 64, sextet (letter k) = some k := by decide +kernel
  exact all n h

theorem letter_ne {n : Nat} (h : n < 64) : letter n ≠ '=' := by
  have all : ∀ k < 64, letter k ≠ '=' := by decide +kernel
  exact all n h

theorem ofNat_eq {n : Nat} {a : UInt8} (h : n = a.toNat) : UInt8.ofNat n = a := by
  rw [h, UInt8.ofNat_toNat]

theorem decode_encode (data : List UInt8) : decode (encode data) = some data := by
  induction data using encode.induct with
  | case1 a b c rest ih =>
    have ha := a.toNat_lt
    have hb := b.toNat_lt
    have hc := c.toNat_lt
    have last := letter_ne (n := c.toNat % 64) (by omega)
    rw [encode, decode]
    · rw [sextet_letter (by omega), sextet_letter (by omega), sextet_letter (by omega),
        sextet_letter (by omega), ih]
      simp only [Option.bind_eq_bind, Option.bind_some, Option.pure_def, Option.some.injEq,
        List.cons.injEq, and_true]
      exact ⟨ofNat_eq (by omega), ofNat_eq (by omega), ofNat_eq (by omega)⟩
    · intro _ same
      exact absurd same last
    · intro same
      exact absurd same last
  | case2 a b =>
    have ha := a.toNat_lt
    have hb := b.toNat_lt
    have third := letter_ne (n := b.toNat % 16 * 4) (by omega)
    rw [encode, decode]
    · rw [sextet_letter (by omega), sextet_letter (by omega), sextet_letter (by omega)]
      simp only [Option.bind_eq_bind, Option.bind_some, Option.pure_def, Option.some.injEq,
        List.cons.injEq, and_true]
      exact ⟨ofNat_eq (by omega), ofNat_eq (by omega)⟩
    · exact third
  | case3 a =>
    have ha := a.toNat_lt
    rw [encode, decode, sextet_letter (by omega), sextet_letter (by omega)]
    simp only [Option.bind_eq_bind, Option.bind_some, Option.pure_def, Option.some.injEq,
      List.cons.injEq, and_true]
    exact ofNat_eq (by omega)
  | case4 => rfl

end Base64
