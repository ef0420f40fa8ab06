/-
# Ages on a clock that wraps around

A counter that goes from `m - 1` to 0, and stamps that were taken from it. The
age of a stamp is the distance back from now, around the wrap. The smallest stamp
is the oldest one as long as all stamps lie on one side of the wrap
(`age_le_of_least_iff`).

Key definition: `age`.
Key theorems: `age_of_le`, `age_of_lt`, `age_le_of_least_iff`.
-/
import Mathlib.Data.List.MinMax

namespace WrapClock

/-- How long ago the stamp `t` was taken from the counter that now shows `now`. -/
def age (m now t : ℕ) : ℕ := (m - t + now) % m

section

variable {m now t : ℕ}

/-- A stamp of this round. -/
theorem age_of_le (hnow : now < m) (h : t ≤ now) : age m now t = now - t := by
  have hround : m - t + now = m + (now - t) := by omega
  unfold age
  rw [hround, Nat.add_mod_left, Nat.mod_eq_of_lt (by omega)]

/-- A stamp from before the wrap. -/
theorem age_of_lt (ht : t < m) (h : now < t) : age m now t = m - t + now := by
  unfold age
  exact Nat.mod_eq_of_lt (by omega)

end

section

variable {ι : Type*} {m now : ℕ} {stamp : ι → ℕ} {l : List ι} {i : ι}

/-- On one side of the wrap smaller stamps are older. -/
theorem age_le_age {s t : ℕ} (hnow : now < m) (ht : t < m) (hst : s ≤ t) (hside : t ≤ now ∨ now < s) :
    age m now t ≤ age m now s := by
  rcases hside with hle | hlt
  · rw [age_of_le hnow hle, age_of_le hnow (hst.trans hle)]
    exact Nat.sub_le_sub_left hst now
  · rw [age_of_lt ht (hlt.trans_le hst), age_of_lt (hst.trans_lt ht) hlt]
    exact Nat.add_le_add_right (Nat.sub_le_sub_left hst m) now

/-- A stamp from before the wrap is older than all since. -/
theorem age_lt_age {s t : ℕ} (hnow : now < m) (ht : t < m) (hs : s ≤ now) (hlt : now < t) :
    age m now s < age m now t := by
  rw [age_of_le hnow hs, age_of_lt ht hlt]
  omega

/-- **When the smallest stamp is the oldest**: if all stamps are of this round, or
all from before the wrap. -/
theorem age_le_of_least_iff (hnow : now < m) (hstamp : ∀ j, stamp j < m) (hi : i ∈ l)
    (hleast : ∀ j ∈ l, stamp i ≤ stamp j) :
    (∀ j ∈ l, age m now (stamp j) ≤ age m now (stamp i)) ↔
      (∀ j ∈ l, stamp j ≤ now) ∨ ∀ j ∈ l, now < stamp j := by
  constructor
  · intro hage
    rcases le_or_gt (stamp i) now with hin | hout
    · refine Or.inl fun j hj => not_lt.mp fun hlt => ?_
      exact absurd (hage j hj) (not_le.mpr (age_lt_age hnow (hstamp j) hin hlt))
    · exact Or.inr fun j hj => hout.trans_le (hleast j hj)
  · rintro (hall | hall) j hj
    · exact age_le_age hnow (hstamp j) (hleast j hj) (Or.inl (hall j hj))
    · exact age_le_age hnow (hstamp j) (hleast j hj) (Or.inr (hall i hi))

end

end WrapClock
