/-
# Input taken in by blocks

A function that takes its input a block at a time, fed with strings of any length:
whole blocks go in, and what is left over waits for the next string. However the
input is cut, the state and the rest are the same (`absorb_append`), so what is
computed from them is a function of the input alone.

Key definitions: `absorb`.
Key theorems: `absorb_append`, `absorb_block`, `length_absorb_rest`.
-/
import Mathlib.Data.List.Basic

namespace Buffered

variable {σ α : Type*} (n : ℕ) (step : σ → List α → σ)

/-- The blocks of a string taken in from `s`: the state, and the rest of the string. -/
def absorb (s : σ) (d : List α) : σ × List α :=
  if 0 < n ∧ n ≤ d.length then absorb (step s (d.take n)) (d.drop n) else (s, d)
termination_by d.length
decreasing_by
  rw [List.length_drop]
  omega

variable {n step}

theorem absorb_short {d : List α} (h : d.length < n) (s : σ) : absorb n step s d = (s, d) := by
  rw [absorb, if_neg (by omega)]

theorem absorb_long {d : List α} (h0 : 0 < n) (h : n ≤ d.length) (s : σ) :
    absorb n step s d = absorb n step (step s (d.take n)) (d.drop n) := by
  rw [absorb, if_pos ⟨h0, h⟩]

/-- A block in front goes in first. -/
theorem absorb_block {b : List α} (h0 : 0 < n) (hb : b.length = n) (s : σ) (d : List α) :
    absorb n step s (b ++ d) = absorb n step (step s b) d := by
  rw [absorb_long h0 (by rw [List.length_append]; omega), List.take_left' hb, List.drop_left' hb]

/-- The rest is what makes no whole block. -/
theorem length_absorb_rest (h0 : 0 < n) (s : σ) (d : List α) :
    (absorb n step s d).2.length = d.length % n := by
  induction s, d using absorb.induct n step with
  | case1 s d h ih =>
    rw [absorb_long h0 h.2, ih, List.length_drop, ← Nat.mod_eq_sub_mod h.2]
  | case2 s d h =>
    have hlt : d.length < n := by omega
    rw [absorb_short hlt, Nat.mod_eq_of_lt hlt]

/-- **Where the input is cut does not matter.** -/
theorem absorb_append (h0 : 0 < n) (s : σ) (a b : List α) :
    absorb n step s (a ++ b) =
      absorb n step (absorb n step s a).1 ((absorb n step s a).2 ++ b) := by
  induction s, a using absorb.induct n step with
  | case1 s a h ih =>
    have hlen : n ≤ (a ++ b).length := by
      rw [List.length_append]
      omega
    rw [absorb_long h0 hlen, absorb_long h0 h.2, List.take_append_of_le_length h.2,
      List.drop_append_of_le_length h.2]
    exact ih
  | case2 s a h =>
    have hlt : a.length < n := by omega
    rw [absorb_short hlt]

end Buffered
