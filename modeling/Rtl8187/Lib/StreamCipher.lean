/-
# Stream ciphers

A generator of key bytes, run along a string and added to it: whatever the
generator, running it twice from the same state gives the string back, since
the key bytes do not depend on the string (`crypt_crypt`).

Key definitions: `crypt`.
Key theorems: `crypt_crypt`, `length_crypt`.
-/
import Mathlib.Data.List.Basic

namespace StreamCipher

variable {σ : Type*} (next : σ → σ × UInt8)

/-- Adds the key bytes `next` generates from `s` to a string. -/
def crypt : σ → List UInt8 → List UInt8
  | _, [] => []
  | s, b :: bs => (b ^^^ (next s).2) :: crypt (next s).1 bs

@[simp] theorem length_crypt : ∀ (s : σ) (bs : List UInt8), (crypt next s bs).length = bs.length
  | _, [] => rfl
  | s, _ :: bs => by simp [crypt, length_crypt _ bs]

/-- Decryption is encryption. -/
@[simp] theorem crypt_crypt : ∀ (s : σ) (bs : List UInt8), crypt next s (crypt next s bs) = bs
  | _, [] => rfl
  | s, b :: bs => by
    simp only [crypt, crypt_crypt _ bs, List.cons.injEq, and_true]
    rw [UInt8.xor_assoc, UInt8.xor_self, UInt8.xor_zero]

end StreamCipher
