/-
# A list in chunks

A list cut into pieces of `p` elements, the last of which may be shorter.

Key definitions: `chunk`.
Key theorems: `flatten_chunks`, `length_chunk`.
-/
import Mathlib.Data.List.Basic
import Mathlib.Algebra.Order.Ring.Nat
import Mathlib.Tactic.Ring

namespace Chunks

variable {α : Type}

/-- Piece `i` of the list. -/
def chunk (p : ℕ) (l : List α) (i : ℕ) : List α := (l.drop (i * p)).take p

variable {p : ℕ} {l : List α}

theorem length_chunk (i : ℕ) : (chunk p l i).length = min p (l.length - i * p) := by
  rw [chunk, List.length_take, List.length_drop]

/-- The first `n` pieces make up the first `n * p` elements. -/
theorem flatten_take (n : ℕ) : ((List.range n).map (chunk p l)).flatten = l.take (n * p) := by
  induction n with
  | zero => simp
  | succ n ih =>
    rw [List.range_succ, List.map_append, List.flatten_append, ih, Nat.succ_mul, List.take_add]
    simp [chunk]

/-- Enough pieces make up the list. -/
theorem flatten_chunks {n : ℕ} (h : l.length ≤ n * p) : ((List.range n).map (chunk p l)).flatten = l := by
  rw [flatten_take, List.take_of_length_le h]

/-- The number of pieces, and the length of the last. -/
theorem count_pos {b n last : ℕ} (hp : 0 < p) (hb : 0 < b)
    (hn : n = if b % p = 0 then b / p else b / p + 1) (hlast : last = if b % p = 0 then p else b % p) :
    0 < n ∧ (n - 1) * p + last = b ∧ last ≤ p := by
  have hdiv := Nat.div_add_mod b p
  have hmod := Nat.mod_lt b hp
  by_cases hzero : b % p = 0
  · rw [if_pos hzero] at hn hlast
    have hpos : 0 < b / p := Nat.div_pos (Nat.le_of_dvd hb (Nat.dvd_of_mod_eq_zero hzero)) hp
    refine ⟨hn ▸ hpos, ?_, hlast.le⟩
    calc (n - 1) * p + last = n * p := by
          rw [hlast, ← Nat.succ_mul, Nat.succ_eq_add_one, Nat.sub_add_cancel (hn ▸ hpos)]
      _ = b := by rw [hn, Nat.div_mul_cancel (Nat.dvd_of_mod_eq_zero hzero)]
  · rw [if_neg hzero] at hn hlast
    refine ⟨hn ▸ Nat.succ_pos _, ?_, hlast ▸ hmod.le⟩
    rw [hn, hlast, Nat.add_sub_cancel, Nat.mul_comm]
    exact hdiv

end Chunks
