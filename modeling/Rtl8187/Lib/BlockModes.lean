/-
# Modes of a block cipher

A mode takes a string a block at a time and carries a state from block to block. The
block function, which may have a state of its own as a stream cipher has, is one itself. Chaining adds the
ciphertext of a block to the next plaintext; its decryption undoes it when the block
functions undo each other (`run_cbcDecrypt`).

Key definitions: `Mode`, `run`, `cbcEncrypt`, `cbcDecrypt`.
Key theorems: `length_run`, `run_cbcDecrypt`.
-/
import Rtl8187.Lib.Bytes

namespace BlockModes

open Bytes

variable {σ : Type*}

/-- What a mode does with a block: the next state, and the block it makes. -/
abbrev Mode (σ : Type*) : Type _ := σ → List UInt8 → σ × List UInt8

/-- A mode run over `n` blocks of `bs` bytes. -/
def run (g : Mode σ) (bs : ℕ) : ℕ → σ → List UInt8 → σ × List UInt8
  | 0, s, _ => (s, [])
  | n + 1, s, d =>
    let r := g s (d.take bs)
    let q := run g bs n r.1 (d.drop bs)
    (q.1, r.2 ++ q.2)

/-- A mode that makes blocks of blocks. -/
def Blockwise (g : Mode σ) (bs : ℕ) : Prop := ∀ s b, b.length = bs → (g s b).2.length = bs

/-- What a mode makes is as long as what it takes, as long as its state is one for which
it makes blocks of blocks. -/
theorem length_run {g : Mode σ} {bs : ℕ} {P : σ → Prop}
    (hg : ∀ s b, P s → b.length = bs → (g s b).2.length = bs ∧ P (g s b).1) :
    ∀ (n : ℕ) (s : σ) (d : List UInt8), P s → d.length = n * bs → (run g bs n s d).2.length = n * bs
  | 0, _, _, _, _ => (Nat.zero_mul bs).symm
  | n + 1, s, d, hs, h => by
    rw [Nat.succ_mul] at h ⊢
    obtain ⟨hfirst, hnext⟩ := hg s (d.take bs) hs (by rw [List.length_take]; omega)
    have hrest := length_run hg n (g s (d.take bs)).1 (d.drop bs) hnext
      (by rw [List.length_drop]; omega)
    rw [run, List.length_append, hfirst, hrest, Nat.add_comm]

/-- Chaining: the vector is added before, and the ciphertext is the next vector. -/
def cbcEncrypt (fn : Mode σ) : Mode (σ × List UInt8) := fun s b =>
  let r := fn s.1 (xorBytes s.2 b)
  ((r.1, r.2), r.2)

/-- The vector is added behind, and the ciphertext is the next vector. -/
def cbcDecrypt (fn : Mode σ) : Mode (σ × List UInt8) := fun s b =>
  let r := fn s.1 b
  ((r.1, b), xorBytes r.2 s.2)

/-- A block function that leaves its state. -/
def keyed (E : σ → List UInt8 → List UInt8) : Mode σ := fun s b => (s, E s b)

theorem ctx_cbcEncrypt (E : σ → List UInt8 → List UInt8) (bs : ℕ) :
    ∀ (n : ℕ) (s : σ) (iv d : List UInt8), (run (cbcEncrypt (keyed E)) bs n (s, iv) d).1.1 = s
  | 0, _, _, _ => rfl
  | n + 1, s, _, _ => ctx_cbcEncrypt E bs n s _ _

theorem xorBytes_cancel {a b : List UInt8} (h : a.length = b.length) :
    xorBytes (xorBytes a b) a = b := by
  apply List.ext_getElem
  · simp [xorBytes, h]
  intro i hi hi'
  have hcomm : ∀ x y : UInt8, (x ^^^ y) ^^^ x = y := fun x y => by
    rw [UInt8.xor_comm x y, UInt8.xor_assoc, UInt8.xor_self, UInt8.xor_zero]
  simp [xorBytes, hcomm]

/-- **Decryption undoes chaining**, and ends in the same state. -/
theorem run_cbcDecrypt {E D : σ → List UInt8 → List UInt8} {bs : ℕ} {s : σ}
    (hE : ∀ b, b.length = bs → (E s b).length = bs) (hD : ∀ b, b.length = bs → D s (E s b) = b) :
    ∀ (n : ℕ) (iv d : List UInt8), iv.length = bs → d.length = n * bs →
      run (cbcDecrypt (keyed D)) bs n (s, iv) (run (cbcEncrypt (keyed E)) bs n (s, iv) d).2 =
        ((run (cbcEncrypt (keyed E)) bs n (s, iv) d).1, d)
  | 0, iv, d, _, h => by
    rw [Nat.zero_mul] at h
    rw [run, run, List.length_eq_zero_iff.mp h]
  | n + 1, iv, d, hiv, h => by
    rw [Nat.succ_mul] at h
    have htake : (d.take bs).length = bs := by
      rw [List.length_take]
      omega
    have hxor : (xorBytes iv (d.take bs)).length = bs := by
      rw [length_xorBytes]
      omega
    have hblock : (E s (xorBytes iv (d.take bs))).length = bs := hE _ hxor
    have ih := run_cbcDecrypt hE hD n (E s (xorBytes iv (d.take bs))) (d.drop bs) hblock
      (by rw [List.length_drop]; omega)
    simp only [run, cbcEncrypt, cbcDecrypt, keyed] at ih ⊢
    rw [List.take_left' hblock, List.drop_left' hblock, hD _ hxor, ih,
      xorBytes_cancel (hiv.trans htake.symm), List.take_append_drop]

end BlockModes
