/-
# Counters that step over numbers

A counter that goes from each allowed number to the next allowed one, and of
which only the remainder by a period is seen. If the period is one of what is
allowed too, a remainder comes back only after as many steps as there are
allowed numbers in a period (`count_le_of_mod_eq`).

Key definitions: `IsNext`.
Key theorems: `count_add_period`, `count_le_of_mod_eq`.
-/
import Mathlib.Data.Nat.Count
import Mathlib.Algebra.Ring.Periodic
import Mathlib.Data.Nat.Periodic

namespace Skip

/-- `y` is the first allowed number after `x`. -/
structure IsNext (p : ℕ → Prop) (x y : ℕ) : Prop where
  lt : x < y
  allowed : p y
  skipped : ∀ z, x < z → z < y → ¬ p z

variable {p : ℕ → Prop} [DecidablePred p] {period : ℕ}

/-- A step passes one allowed number, the one it comes from. -/
theorem count_next {x y : ℕ} (hx : p x) (h : IsNext p x y) : Nat.count p y = Nat.count p x + 1 := by
  obtain ⟨k, rfl⟩ := Nat.exists_eq_add_of_lt h.lt
  have hnone : Nat.count (fun i => p (x + 1 + i)) k = 0 := by
    apply Nat.count_of_forall_not
    intro i hi
    exact h.skipped _ (by omega) (by omega)
  rw [show x + k + 1 = x + 1 + k by omega, Nat.count_add, hnone, Nat.count_succ, if_pos hx]

theorem count_add_period (hp : Function.Periodic p period) (n : ℕ) :
    Nat.count p (n + period) = Nat.count p n + Nat.count p period := by
  have hshift : (fun k => p (k + period)) = p := funext hp
  rw [Nat.count_add']
  simp only [hshift]

section

variable {v : ℕ → ℕ} (h0 : p (v 0)) (hnext : ∀ n, p (v n) → IsNext p (v n) (v (n + 1)))

include h0 hnext

omit [DecidablePred p] in
theorem run_allowed : ∀ n, p (v n)
  | 0 => h0
  | n + 1 => (hnext n (run_allowed n)).allowed

theorem run_count : ∀ n, Nat.count p (v n) = Nat.count p (v 0) + n
  | 0 => rfl
  | n + 1 => by
    have ih := run_count n
    have hallowed := run_allowed h0 hnext n
    rw [count_next hallowed (hnext n hallowed), ih, Nat.add_assoc]

/-- **A remainder comes back only after a whole period**: two numbers of the
run with the same remainder are as many steps apart as a period has allowed
numbers. -/
theorem count_le_of_mod_eq (hp : Function.Periodic p period) {i j : ℕ} (hij : i < j)
    (hmod : v i % period = v j % period) : i + Nat.count p period ≤ j := by
  have hi := run_count h0 hnext i
  have hj := run_count h0 hnext j
  have hlt : v i < v j := Nat.lt_of_count_lt_count (p := p) (by omega)
  have hfar : v i + period ≤ v j := by
    have hdvd : period ∣ v j - v i := (Nat.modEq_iff_dvd' hlt.le).mp hmod
    have hle := Nat.le_of_dvd (by omega) hdvd
    omega
  have hcount := Nat.count_monotone p hfar
  rw [count_add_period hp] at hcount
  omega

end

end Skip
