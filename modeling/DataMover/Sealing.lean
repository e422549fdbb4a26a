import Mathlib

/-!
# Two layers of sealing

A value is sealed under a key of its own, and this key under a master key; both seals carry data about
the owner.  Authenticity is stated for a history of sealings: with a key that is kept secret, only what
was sealed opens.  So whatever opens is, field by field, one entry of the history.
-/

namespace Sealing

universe u v w

/-- Authenticated encryption with associated data; keys, nonces and texts are all of one type. -/
structure Aead (B : Type u) where
  encrypt : B → B → B → B → B
  decrypt : B → B → B → B → Option B

/-- One sealing: key, nonce, plaintext and associated data. -/
structure Sealed (B : Type u) where
  key : B
  nonce : B
  plain : B
  data : B
  deriving DecidableEq

namespace Aead

variable {B : Type u} (aead : Aead B)

def text (s : Sealed B) : B := aead.encrypt s.key s.nonce s.plain s.data

/-- What was sealed opens, and with a secret key nothing else does. -/
structure Authentic (secret : Set B) (history : Set (Sealed B)) : Prop where
  opens : ∀ s ∈ history, aead.decrypt s.key s.nonce (aead.text s) s.data = some s.plain
  only : ∀ key ∈ secret, ∀ nonce text data plain, aead.decrypt key nonce text data = some plain →
    ∃ s ∈ history, s = ⟨key, nonce, plain, data⟩ ∧ text = aead.text s

end Aead

/-! ## Envelopes -/

/-- The associated data of the two layers. -/
structure Labels (I : Type v) (M : Type w) (B : Type u) where
  value : I → B
  key : I → M → B
  value_injective : Function.Injective value
  key_injective : ∀ {i j : I} {m n : M}, key i m = key j n → i = j ∧ m = n
  value_ne_key : ∀ i j m, value i ≠ key j m

/-- A value that was put into an envelope, with what was drawn for it. -/
structure Wrapped (I : Type v) (M : Type w) (B : Type u) where
  owner : I
  master : M
  plain : B
  dataKey : B
  valueNonce : B
  keyNonce : B

/-- The fields of an envelope. -/
@[ext] structure Fields (B : Type u) where
  text : B
  nonce : B
  sealedKey : B
  keyNonce : B

section Envelopes

variable {I : Type v} {M : Type w} {B : Type u} (aead : Aead B) (labels : Labels I M B) (masterKey : M → B)

/-- The seal of the value. -/
def Wrapped.valueSeal (w : Wrapped I M B) : Sealed B :=
  ⟨w.dataKey, w.valueNonce, w.plain, labels.value w.owner⟩

/-- The seal of its key. -/
def Wrapped.keySeal (w : Wrapped I M B) : Sealed B :=
  ⟨masterKey w.master, w.keyNonce, w.dataKey, labels.key w.owner w.master⟩

def wrap (w : Wrapped I M B) : Fields B where
  text := aead.text (w.valueSeal labels)
  nonce := w.valueNonce
  sealedKey := aead.text (w.keySeal labels masterKey)
  keyNonce := w.keyNonce

def unwrap (owner : I) (master : M) (f : Fields B) : Option B := do
  let dataKey ← aead.decrypt (masterKey master) f.keyNonce f.sealedKey (labels.key owner master)
  aead.decrypt dataKey f.nonce f.text (labels.value owner)

/-- All that was sealed for some envelopes. -/
def sealings (history : Set (Wrapped I M B)) : Set (Sealed B) :=
  {s | ∃ w ∈ history, s = w.valueSeal labels ∨ s = w.keySeal labels masterKey}

/-- The master keys and the keys that were drawn. -/
def secrets (usable : Set M) (history : Set (Wrapped I M B)) : Set B :=
  {key | (∃ m ∈ usable, key = masterKey m) ∨ ∃ w ∈ history, key = w.dataKey}

/-- Nothing is drawn twice. -/
structure Fresh (history : Set (Wrapped I M B)) : Prop where
  dataKey : ∀ w ∈ history, ∀ w' ∈ history, w.dataKey = w'.dataKey → w = w'
  keyNonce : ∀ w ∈ history, ∀ w' ∈ history, w.keyNonce = w'.keyNonce → w = w'

variable {aead labels masterKey} {usable : Set M} {history : Set (Wrapped I M B)}

/-- An envelope opens for its owner. -/
theorem unwrap_wrap (authentic : aead.Authentic (secrets masterKey usable history)
    (sealings labels masterKey history)) {w : Wrapped I M B} (hw : w ∈ history) :
    unwrap aead labels masterKey w.owner w.master (wrap aead labels masterKey w) = some w.plain := by
  have key := authentic.opens (w.keySeal labels masterKey) ⟨w, hw, .inr rfl⟩
  have value := authentic.opens (w.valueSeal labels) ⟨w, hw, .inl rfl⟩
  exact Option.bind_eq_some_iff.2 ⟨w.dataKey, key, value⟩

/-- What opens was put into an envelope as it is. -/
theorem wrapped_of_unwrap (fresh : Fresh history)
    (authentic : aead.Authentic (secrets masterKey usable history) (sealings labels masterKey history))
    {owner : I} {master : M} (held : master ∈ usable) {f : Fields B} {plain : B}
    (h : unwrap aead labels masterKey owner master f = some plain) :
    ∃ w ∈ history, w.owner = owner ∧ w.master = master ∧ w.plain = plain ∧
      f = wrap aead labels masterKey w := by
  obtain ⟨dataKey, outer, inner⟩ := Option.bind_eq_some_iff.1 h
  obtain ⟨s, ⟨w, hw, kind⟩, same, sealedKey⟩ :=
    authentic.only _ (.inl ⟨master, held, rfl⟩) _ _ _ _ outer
  rcases kind with rfl | rfl
  · exact absurd (congrArg Sealed.data same) (labels.value_ne_key _ _ _)
  obtain ⟨rfl, rfl⟩ := labels.key_injective (congrArg Sealed.data same)
  obtain rfl : w.dataKey = dataKey := congrArg Sealed.plain same
  have keyNonce : w.keyNonce = f.keyNonce := congrArg Sealed.nonce same
  -- the key was drawn once, so the value was sealed together with it
  obtain ⟨s, ⟨w', hw', kind⟩, same', text⟩ := authentic.only _ (.inr ⟨w, hw, rfl⟩) _ _ _ _ inner
  rcases kind with rfl | rfl
  · obtain rfl := fresh.dataKey w' hw' w hw (congrArg Sealed.key same')
    refine ⟨w', hw, rfl, rfl, congrArg Sealed.plain same', Fields.ext text ?_ sealedKey keyNonce.symm⟩
    exact (congrArg Sealed.nonce same').symm
  · exact absurd (congrArg Sealed.data same').symm (labels.value_ne_key _ _ _)

/-- Fields that are taken from two envelopes. -/
def mix (fromText fromNonce fromKey fromKeyNonce : Bool) (f g : Fields B) : Fields B where
  text := if fromText then g.text else f.text
  nonce := if fromNonce then g.nonce else f.nonce
  sealedKey := if fromKey then g.sealedKey else f.sealedKey
  keyNonce := if fromKeyNonce then g.keyNonce else f.keyNonce

/-- A mixture that opens is one of the two envelopes. -/
theorem mix_of_unwrap (fresh : Fresh history)
    (authentic : aead.Authentic (secrets masterKey usable history) (sealings labels masterKey history))
    {a b : Wrapped I M B} (ha : a ∈ history) (hb : b ∈ history) (held : a.master ∈ usable)
    {i j k l : Bool} {plain : B} (h : unwrap aead labels masterKey a.owner a.master
      (mix i j k l (wrap aead labels masterKey a) (wrap aead labels masterKey b)) = some plain) :
    mix i j k l (wrap aead labels masterKey a) (wrap aead labels masterKey b) =
        wrap aead labels masterKey a ∨
      b.owner = a.owner ∧ b.master = a.master ∧
        mix i j k l (wrap aead labels masterKey a) (wrap aead labels masterKey b) =
          wrap aead labels masterKey b := by
  obtain ⟨w, hw, owner, master, -, same⟩ := wrapped_of_unwrap fresh authentic held h
  have nonce : (if l then b.keyNonce else a.keyNonce) = w.keyNonce := congrArg Fields.keyNonce same
  cases l with
  | false =>
    obtain rfl := fresh.keyNonce a ha w hw nonce
    exact .inl same
  | true =>
    obtain rfl := fresh.keyNonce b hb w hw nonce
    exact .inr ⟨owner, master, same⟩

/-- An envelope opens for nobody else. -/
theorem owner_of_unwrap (fresh : Fresh history)
    (authentic : aead.Authentic (secrets masterKey usable history) (sealings labels masterKey history))
    {w : Wrapped I M B} (hw : w ∈ history) {owner : I} {master : M} (held : master ∈ usable) {plain : B}
    (h : unwrap aead labels masterKey owner master (wrap aead labels masterKey w) = some plain) :
    owner = w.owner ∧ master = w.master := by
  obtain ⟨w', hw', rfl, rfl, -, same⟩ := wrapped_of_unwrap fresh authentic held h
  obtain rfl := fresh.keyNonce w hw w' hw' (congrArg Fields.keyNonce same)
  exact ⟨rfl, rfl⟩

end Envelopes

end Sealing
