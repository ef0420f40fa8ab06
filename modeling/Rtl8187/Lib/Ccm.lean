/-
# Counter mode with CBC-MAC

The block loops of CCM over an arbitrary block function `E`: a running MAC
takes in the plaintext a block at a time, and each block is masked with the
encryption of a counter block. The last block may be short. Opening what was
sealed gives the plaintext and the same MAC (`openBlocks_sealBlocks`), since
both loops feed the plaintext to the MAC.

Key definitions: `absorb`, `sealBlocks`, `openBlocks`.
Key theorems: `openBlocks_sealBlocks`.
-/
import Rtl8187.Lib.Bytes

namespace Ccm

open Bytes

/-- The bytes of a block. -/
def blockLen : ℕ := 16

/-- The number of blocks of a string. -/
def blocks (len : ℕ) : ℕ := (len + blockLen - 1) / blockLen

variable (E : List UInt8 → List UInt8) (ctr : ℕ → List UInt8)

/-- The MAC after a block of plaintext, which may be short. -/
def absorb (mac p : List UInt8) : List UInt8 :=
  E (xorBytes (mac.take p.length) p ++ mac.drop p.length)

/-- The MAC and the masked text of `n` blocks, counted from `i`. -/
def sealBlocks : ℕ → ℕ → List UInt8 → List UInt8 → List UInt8 × List UInt8
  | 0, _, mac, _ => (mac, [])
  | n + 1, i, mac, d =>
    let p := d.take blockLen
    let r := sealBlocks n (i + 1) (absorb E mac p) (d.drop blockLen)
    (r.1, xorBytes p (E (ctr i)) ++ r.2)

/-- The MAC and the plaintext of `n` masked blocks, counted from `i`. -/
def openBlocks : ℕ → ℕ → List UInt8 → List UInt8 → List UInt8 × List UInt8
  | 0, _, mac, _ => (mac, [])
  | n + 1, i, mac, d =>
    let p := xorBytes (d.take blockLen) (E (ctr i))
    let r := openBlocks n (i + 1) (absorb E mac p) (d.drop blockLen)
    (r.1, p ++ r.2)

/-- The blocks cover the string. -/
theorem le_blocks (len : ℕ) : len ≤ blocks len * blockLen := by
  unfold blocks blockLen
  omega

/-- A block is cut off the front of a text whose only short block is the last. -/
theorem cut_block (m r : List UInt8) (hm : m.length ≤ blockLen) (hr : m.length < blockLen → r = []) :
    (m ++ r).take blockLen = m ∧ (m ++ r).drop blockLen = r := by
  rcases Nat.lt_or_eq_of_le hm with hlt | heq
  · rw [hr hlt, List.append_nil, List.take_of_length_le hm, List.drop_of_length_le hm]
    exact ⟨rfl, rfl⟩
  · exact ⟨List.take_left' heq, List.drop_left' heq⟩

section

variable (hE : ∀ b, (E b).length = blockLen)

include hE

theorem length_mask (p : List UInt8) (hp : p.length ≤ blockLen) (i : ℕ) :
    (xorBytes p (E (ctr i))).length = p.length := by
  rw [length_xorBytes, hE, min_eq_left hp]

/-- Sealing keeps the length. -/
theorem length_sealBlocks : ∀ (n i : ℕ) (mac d : List UInt8), d.length ≤ n * blockLen →
    (sealBlocks E ctr n i mac d).2.length = d.length
  | 0, _, _, d, h => by
    rw [Nat.zero_mul, Nat.le_zero] at h
    rw [sealBlocks, List.length_nil, h]
  | n + 1, i, mac, d, h => by
    have ih := length_sealBlocks n (i + 1) (absorb E mac (d.take blockLen)) (d.drop blockLen)
      (by rw [List.length_drop]; rw [Nat.succ_mul] at h; omega)
    simp only [sealBlocks, List.length_append, ih, length_mask E ctr hE _ (List.length_take_le ..)]
    rw [List.length_take, List.length_drop]
    omega

/-- So does opening. -/
theorem length_openBlocks : ∀ (n i : ℕ) (mac d : List UInt8), d.length ≤ n * blockLen →
    (openBlocks E ctr n i mac d).2.length = d.length
  | 0, _, _, d, h => by
    rw [Nat.zero_mul, Nat.le_zero] at h
    rw [openBlocks, List.length_nil, h]
  | n + 1, i, mac, d, h => by
    have hdrop : (d.drop blockLen).length ≤ n * blockLen := by
      rw [List.length_drop]
      rw [Nat.succ_mul] at h
      omega
    have ih := fun mac => length_openBlocks n (i + 1) mac (d.drop blockLen) hdrop
    simp only [openBlocks, List.length_append, ih, length_mask E ctr hE _ (List.length_take_le ..)]
    rw [List.length_take, List.length_drop]
    omega

/-- The MAC is a block. -/
theorem length_sealBlocks_mac : ∀ (n i : ℕ) (mac d : List UInt8), mac.length = blockLen →
    (sealBlocks E ctr n i mac d).1.length = blockLen
  | 0, _, _, _, h => h
  | n + 1, i, mac, d, _ => by
    rw [sealBlocks]
    exact length_sealBlocks_mac n (i + 1) _ _ (hE _)

/-- **Opening undoes sealing**, and ends with the same MAC. -/
theorem openBlocks_sealBlocks : ∀ (n i : ℕ) (mac d : List UInt8), d.length ≤ n * blockLen →
    openBlocks E ctr n i mac (sealBlocks E ctr n i mac d).2 = ((sealBlocks E ctr n i mac d).1, d)
  | 0, _, _, d, h => by
    rw [Nat.zero_mul, Nat.le_zero] at h
    rw [sealBlocks, openBlocks, List.length_eq_zero_iff.mp h]
  | n + 1, i, mac, d, h => by
    have hdrop : (d.drop blockLen).length ≤ n * blockLen := by
      rw [List.length_drop]
      rw [Nat.succ_mul] at h
      omega
    have ih := openBlocks_sealBlocks n (i + 1) (absorb E mac (d.take blockLen)) (d.drop blockLen) hdrop
    have hmask := length_mask E ctr hE (d.take blockLen) (List.length_take_le ..) i
    have hplain : xorBytes (xorBytes (d.take blockLen) (E (ctr i))) (E (ctr i)) = d.take blockLen :=
      xorBytes_xorBytes _ _ (by rw [hE]; exact List.length_take_le ..)
    -- A short block is the last one, so what follows it is empty.
    have hcut := cut_block (xorBytes (d.take blockLen) (E (ctr i)))
      (sealBlocks E ctr n (i + 1) (absorb E mac (d.take blockLen)) (d.drop blockLen)).2
      (by rw [hmask]; exact List.length_take_le ..)
      (by
        intro hshort
        have hlen := length_sealBlocks E ctr hE n (i + 1) (absorb E mac (d.take blockLen))
          (d.drop blockLen) hdrop
        rw [hmask, List.length_take] at hshort
        rw [← List.length_eq_zero_iff, hlen, List.length_drop]
        omega)
    simp only [sealBlocks, openBlocks, hcut.1, hcut.2, hplain, ih, List.take_append_drop]

end

end Ccm
