/-
# Ciphers of rounds

A block cipher of the Rijndael shape, over any state: a key is added, and a
round is a substitution, a permutation of places, a linear mixing and the
addition of a key; the last round does not mix. The straight inverse undoes the
layers in the opposite order. The equivalent inverse runs rounds of the shape
of the encryption's, with the inverse layers, on keys that are unmixed but for
the first and the last; it computes the same since the substitution does not
look at places and the mixing is linear (`eqDecrypt_eqKeys`).

Key definitions: `Layers`, `Layers.encrypt`, `Layers.decrypt`, `Layers.eqDecrypt`.
Key theorems: `Layers.decrypt_encrypt`, `Layers.eqDecrypt_eqKeys`.
-/
import Mathlib.Logic.Equiv.Basic

namespace RoundCipher

/-- The keys of a cipher, in the order they are added. -/
structure Keys (S : Type*) where
  first : S
  mid : List S
  last : S

/-- The layers of a round, and what the inverse ciphers use of them. -/
structure Layers (S : Type*) where
  add : S → S → S
  sub : Equiv.Perm S
  shift : Equiv.Perm S
  mix : Equiv.Perm S
  add_add : ∀ s k, add (add s k) k = s
  mix_add : ∀ s k, mix (add s k) = add (mix s) (mix k)
  sub_shift : ∀ s, sub (shift s) = shift (sub s)

namespace Layers

variable {S : Type*} (L : Layers S)

/-- A round. -/
def round (s k : S) : S := L.add (L.mix (L.shift (L.sub s))) k

/-- The last round. -/
def lastRound (s k : S) : S := L.add (L.shift (L.sub s)) k

/-- The cipher. -/
def encrypt (K : Keys S) (s : S) : S :=
  L.lastRound (K.mid.foldl L.round (L.add s K.first)) K.last

/-- A round of the straight inverse: places and substitution undone, then the
key taken off, then the mixing undone. -/
def invRound (s k : S) : S := L.mix.symm (L.add (L.sub.symm (L.shift.symm s)) k)

/-- Its last round. -/
def invLastRound (s k : S) : S := L.add (L.sub.symm (L.shift.symm s)) k

/-- The straight inverse cipher, on the keys of the encryption. -/
def decrypt (K : Keys S) (s : S) : S :=
  L.invLastRound (K.mid.reverse.foldl L.invRound (L.add s K.last)) K.first

/-- A round of the equivalent inverse: the inverse layers in the order of
the encryption's. -/
def eqRound (s k : S) : S := L.add (L.mix.symm (L.shift.symm (L.sub.symm s))) k

/-- Its last round. -/
def eqLastRound (s k : S) : S := L.add (L.shift.symm (L.sub.symm s)) k

/-- The equivalent inverse cipher, on keys of its own. -/
def eqDecrypt (K : Keys S) (s : S) : S :=
  L.eqLastRound (K.mid.foldl L.eqRound (L.add s K.first)) K.last

/-- The keys of the equivalent inverse. -/
def eqKeys (K : Keys S) : Keys S := ⟨K.last, K.mid.reverse.map L.mix.symm, K.first⟩

variable {L}

/-! ### The straight inverse -/

theorem invRound_round (s k : S) :
    L.invRound (L.shift (L.sub (L.round s k))) k = L.shift (L.sub s) := by
  rw [invRound, Equiv.symm_apply_apply, Equiv.symm_apply_apply, round, L.add_add,
    Equiv.symm_apply_apply]

theorem foldl_invRound : ∀ (ks : List S) (s : S),
    ks.reverse.foldl L.invRound (L.shift (L.sub (ks.foldl L.round s))) = L.shift (L.sub s)
  | [], _ => rfl
  | k :: ks, s => by
    rw [List.foldl_cons, List.reverse_cons, List.foldl_append, foldl_invRound ks]
    exact invRound_round s k

/-- **The straight inverse undoes the cipher.** -/
theorem decrypt_encrypt (K : Keys S) (s : S) : L.decrypt K (L.encrypt K s) = s := by
  rw [decrypt, encrypt, lastRound, L.add_add, foldl_invRound, invLastRound,
    Equiv.symm_apply_apply, Equiv.symm_apply_apply, L.add_add]

/-! ### The equivalent inverse -/

theorem symm_mix_add (s k : S) :
    L.mix.symm (L.add s k) = L.add (L.mix.symm s) (L.mix.symm k) := by
  rw [Equiv.symm_apply_eq, L.mix_add, Equiv.apply_symm_apply, Equiv.apply_symm_apply]

theorem symm_sub_shift (s : S) :
    L.shift.symm (L.sub.symm s) = L.sub.symm (L.shift.symm s) := by
  have h : L.sub (L.shift (L.sub.symm (L.shift.symm s))) = s := by
    rw [L.sub_shift, Equiv.apply_symm_apply, Equiv.apply_symm_apply]
  calc L.shift.symm (L.sub.symm s)
      = L.shift.symm (L.sub.symm (L.sub (L.shift (L.sub.symm (L.shift.symm s))))) := by rw [h]
    _ = L.sub.symm (L.shift.symm s) := by rw [Equiv.symm_apply_apply, Equiv.symm_apply_apply]

theorem eqRound_symm (s k : S) : L.eqRound s (L.mix.symm k) = L.invRound s k := by
  rw [eqRound, invRound, symm_mix_add, symm_sub_shift]

/-- **The equivalent inverse is the straight one**, on its keys. -/
theorem eqDecrypt_eqKeys (K : Keys S) (s : S) : L.eqDecrypt (L.eqKeys K) s = L.decrypt K s := by
  have hround : (fun t k => L.eqRound t (L.mix.symm k)) = L.invRound := by
    funext t k
    exact eqRound_symm t k
  rw [eqDecrypt, decrypt, eqKeys, List.foldl_map, hround, eqLastRound, invLastRound, symm_sub_shift]

end Layers

end RoundCipher
