/-
# Slots that are taken in turn

`n` slots, `held i` being what the slot `i` holds. Call number `c` takes the
slot `c % n`, whether it is free or not. `since i` is the number of the call
that last put something into the slot `i`. The slot whose turn it is is free
exactly if nothing is held that is `n` calls old (`Aligned.turn_free_iff`).

Key definitions: `count`, `Aligned`.
Key theorems: `count_fill`, `count_empty`, `Aligned.turn_free_iff`, `Aligned.fill`.
-/
import Mathlib.Data.Fintype.Card
import Mathlib.Data.Fintype.Basic
import Mathlib.Logic.Function.Basic

namespace Slots

variable {n : ℕ} {α : Type*}

section

variable [DecidableEq α]

/-- How many slots hold `a`. -/
def count (held : Fin n → Option α) (a : α) : ℕ :=
  (Finset.univ.filter fun i => held i = some a).card

variable {held : Fin n → Option α} {i : Fin n} {a : α}

theorem count_none (a : α) : count (fun _ : Fin n => none) a = 0 := by
  simp [count]

/-- A free slot is filled. -/
theorem count_fill (h : held i = none) (a b : α) :
    count (Function.update held i (some a)) b = count held b + if a = b then 1 else 0 := by
  have hmem : i ∉ Finset.univ.filter fun j => held j = some b := by simp [h]
  unfold count
  by_cases hab : a = b
  · subst hab
    have hset : (Finset.univ.filter fun j => Function.update held i (some a) j = some a) =
        insert i (Finset.univ.filter fun j => held j = some a) := by
      ext j
      by_cases hj : j = i
      · simp [hj]
      · simp [hj]
    rw [hset, Finset.card_insert_of_notMem hmem, if_pos rfl]
  · have hset : (Finset.univ.filter fun j => Function.update held i (some a) j = some b) =
        Finset.univ.filter fun j => held j = some b := by
      ext j
      by_cases hj : j = i
      · simp [hj, hab, h]
      · simp [hj]
    rw [hset, if_neg hab, Nat.add_zero]

/-- A slot is emptied. -/
theorem count_empty (h : held i = some a) (b : α) :
    count (Function.update held i none) b + (if a = b then 1 else 0) = count held b := by
  have hfill := @count_fill n α _ (Function.update held i none) i (Function.update_self ..) a b
  rw [Function.update_idem, ← h, Function.update_eq_self] at hfill
  exact hfill.symm

end

/-- Each thing held was put there by an earlier call, in its turn, and at most
`n` calls ago. -/
structure Aligned (held : Fin n → Option α) (since : Fin n → ℕ) (calls : ℕ) : Prop where
  before : ∀ i, held i ≠ none → since i < calls
  turn : ∀ i, held i ≠ none → since i % n = i
  recent : ∀ i, held i ≠ none → calls ≤ since i + n

namespace Aligned

variable {held : Fin n → Option α} {since : Fin n → ℕ} {calls : ℕ} {i : Fin n}

theorem of_free (hfree : ∀ i, held i = none) : Aligned held since calls :=
  ⟨fun i h => absurd (hfree i) h, fun i h => absurd (hfree i) h, fun i h => absurd (hfree i) h⟩

/-- The slot whose turn it is is free exactly if nothing is held that was put
there `n` calls ago. -/
theorem turn_free_iff (h : Aligned held since calls) (hi : (i : ℕ) = calls % n) :
    held i = none ↔ ∀ j, held j ≠ none → calls < since j + n := by
  constructor
  · intro hfree j hj
    have hle := h.recent j hj
    have hturn := h.turn j hj
    rcases Nat.lt_or_eq_of_le hle with hlt | heq
    · exact hlt
    · -- then it was put into this very slot
      rw [heq, Nat.add_mod_right, hturn] at hi
      rw [Fin.ext hi] at hfree
      exact absurd hfree hj
  · intro hrecent
    by_contra hne
    have hbefore := h.before i hne
    have hturn := h.turn i hne
    have hlt := hrecent i hne
    have hmod : calls % n = since i % n := hi.symm.trans hturn.symm
    have hdvd : n ∣ calls - since i := Nat.dvd_of_mod_eq_zero (Nat.sub_mod_eq_zero_of_mod_eq hmod)
    have hn := Nat.le_of_dvd (by omega) hdvd
    omega

/-- The next call finds its slot free and fills it. -/
theorem fill (h : Aligned held since calls) (hi : (i : ℕ) = calls % n) (hfree : held i = none)
    (a : α) : Aligned (Function.update held i (some a)) (Function.update since i calls) (calls + 1) := by
  have hrecent := (h.turn_free_iff hi).mp hfree
  have hn : 0 < n := Nat.zero_lt_of_lt i.isLt
  refine ⟨fun j hj => ?_, fun j hj => ?_, fun j hj => ?_⟩
  · by_cases hji : j = i
    · subst hji
      rw [Function.update_self]
      exact Nat.lt_succ_self _
    · rw [Function.update_of_ne hji] at hj ⊢
      exact (h.before j hj).trans (Nat.lt_succ_self _)
  · by_cases hji : j = i
    · subst hji
      rw [Function.update_self]
      exact hi.symm
    · rw [Function.update_of_ne hji] at hj ⊢
      exact h.turn j hj
  · by_cases hji : j = i
    · subst hji
      rw [Function.update_self]
      omega
    · rw [Function.update_of_ne hji] at hj ⊢
      exact hrecent j hj

/-- The next call finds its slot free and leaves it so. -/
theorem skip (h : Aligned held since calls) (hi : (i : ℕ) = calls % n) (hfree : held i = none) :
    Aligned held since (calls + 1) :=
  ⟨fun j hj => (h.before j hj).trans (Nat.lt_succ_self _), h.turn,
    (h.turn_free_iff hi).mp hfree⟩

/-- A slot is emptied. -/
theorem empty (h : Aligned held since calls) (i : Fin n) :
    Aligned (Function.update held i none) since calls := by
  have hheld : ∀ j, Function.update held i none j ≠ none → held j ≠ none := by
    intro j hj
    by_cases hji : j = i
    · subst hji
      exact absurd (Function.update_self ..) hj
    · rwa [Function.update_of_ne hji] at hj
  exact ⟨fun j hj => h.before j (hheld j hj), fun j hj => h.turn j (hheld j hj),
    fun j hj => h.recent j (hheld j hj)⟩

end Aligned

end Slots
