/-
# Going round a ring

The residues modulo `n`, some of which are marked. A search goes from a residue
to the next marked one, and searches that go on from each other make visits. Any
`n` ticks of the way pass every residue once (`residues_perm`); so as many visits
as there are marked residues come to each of them exactly once, wherever they
begin (`visits_window`).

Key definitions: `residues`, `ahead`, `visits`.
Key theorems: `residues_perm`, `visits_passed`, `visits_window`.
-/
import Mathlib.Data.List.Basic
import Mathlib.Data.List.Perm.Basic

namespace CyclicScan

variable {n : ℕ} {p : ℕ → Bool}

/-- The residues that `w` ticks from `c` on pass. -/
def residues (n c w : ℕ) : List ℕ := (List.range' (c + 1) w).map (· % n)

/-- The next marked residue behind `c`, if it is not more than `turns` ticks away. -/
def ahead (n : ℕ) (p : ℕ → Bool) : ℕ → ℕ → Option ℕ
  | 0, _ => none
  | turns + 1, c => if p ((c + 1) % n) then some ((c + 1) % n) else ahead n p turns ((c + 1) % n)

/-- The first `k` visits from `c` on, each found in that many ticks. -/
def visits (n : ℕ) (p : ℕ → Bool) (turns : ℕ) : ℕ → ℕ → List ℕ
  | _, 0 => []
  | c, k + 1 =>
    match ahead n p turns c with
    | none => []
    | some c' => c' :: visits n p turns c' k

/-! ### The way -/

theorem residues_succ (n c w : ℕ) : residues n c (w + 1) = ((c + 1) % n) :: residues n (c + 1) w := rfl

theorem residues_concat (n c w : ℕ) : residues n c (w + 1) = residues n c w ++ [(c + 1 + w) % n] := by
  unfold residues
  rw [List.range'_1_concat, List.map_append]
  rfl

theorem residues_append (n c w w' : ℕ) : residues n c (w + w') = residues n c w ++ residues n (c + w) w' := by
  unfold residues
  rw [← List.map_append, show c + w + 1 = c + 1 + w by omega, List.range'_append_1]

/-- It matters only where it begins on the ring. -/
theorem residues_mod (n c w : ℕ) : residues n (c % n) w = residues n c w := by
  induction w with
  | zero => rfl
  | succ w ih => rw [residues_concat, residues_concat, ih, Nat.add_assoc, Nat.add_assoc, Nat.mod_add_mod]

/-- **Once round** passes every residue once. -/
theorem residues_perm (n c : ℕ) : (residues n c n).Perm (List.range n) := by
  induction c with
  | zero =>
    cases n with
    | zero => rfl
    | succ n =>
      have hlast : (0 + 1 + n) % (n + 1) = 0 := by rw [Nat.zero_add, Nat.add_comm, Nat.mod_self]
      have hfirst : residues (n + 1) 0 n = List.range' 1 n := by
        have hsmall : ∀ i ∈ List.range' 1 n, i % (n + 1) = i := by
          intro i hi
          have hlt := (List.mem_range'_1.mp hi).2
          exact Nat.mod_eq_of_lt (by omega)
        calc residues (n + 1) 0 n = (List.range' 1 n).map fun i => i := List.map_congr_left hsmall
          _ = List.range' 1 n := List.map_id' _
      rw [residues_concat, hlast, hfirst, List.range_eq_range', List.range'_succ]
      exact List.perm_append_singleton 0 _
  | succ c ih =>
    cases n with
    | zero => rfl
    | succ n =>
      have hback : (c + 1 + 1 + n) % (n + 1) = (c + 1) % (n + 1) := by
        rw [show c + 1 + 1 + n = c + 1 + (n + 1) by omega, Nat.add_mod_right]
      rw [residues_concat, hback]
      rw [residues_succ] at ih
      exact (List.perm_append_singleton _ _).trans ih

/-! ### The search -/

theorem ahead_eq (turns c : ℕ) : ahead n p turns c = (residues n c turns).find? p := by
  induction turns generalizing c with
  | zero => rfl
  | succ turns ih =>
    rw [ahead, residues_succ, List.find?_cons]
    by_cases hp : p ((c + 1) % n) = true
    · rw [if_pos hp, hp]
    · rw [if_neg hp, ih, residues_mod, Bool.eq_false_iff.mpr hp]

/-- There is a marked residue. -/
def Marked (n : ℕ) (p : ℕ → Bool) : Prop := ∃ c < n, p c = true

section

variable {turns : ℕ} (hmark : Marked n p)

include hmark

/-- Once round is far enough. -/
theorem exists_ahead (c : ℕ) : ∃ c', (residues n c n).find? p = some c' := by
  obtain ⟨r, hr, hp⟩ := hmark
  apply Option.isSome_iff_exists.mp
  apply List.find?_isSome.mpr
  exact ⟨r, (residues_perm n c).mem_iff.mpr (List.mem_range.mpr hr), hp⟩

theorem ahead_round (hturns : n ≤ turns) (c : ℕ) : ahead n p turns c = (residues n c n).find? p := by
  obtain ⟨c', hc'⟩ := exists_ahead hmark c
  obtain ⟨rest, rfl⟩ := Nat.exists_eq_add_of_le hturns
  rw [ahead_eq, residues_append, List.find?_append, hc']
  rfl

/-- A tick to a residue that is not marked makes no difference. -/
theorem ahead_tick (hturns : n < turns) {c : ℕ} (hp : ¬ p ((c + 1) % n) = true) :
    ahead n p turns c = ahead n p turns (c + 1) := by
  obtain ⟨rest, rfl⟩ := Nat.exists_eq_add_of_lt hturns
  have hless := ahead_round hmark (Nat.le_add_right n rest) (c + 1)
  rw [ahead_round hmark (by omega) (c + 1), ← hless, ahead, if_neg hp, ahead_eq, ahead_eq, residues_mod]

/-- The visits are the marked residues on the way. -/
theorem visits_passed (hturns : n < turns) (c w : ℕ) :
    visits n p turns c ((residues n c w).filter p).length = (residues n c w).filter p := by
  have hmod : ∀ c k, visits n p turns (c % n) k = visits n p turns c k := by
    intro c k
    cases k with
    | zero => rfl
    | succ k => rw [visits, visits, ahead_eq, ahead_eq, residues_mod]
  induction w generalizing c with
  | zero => rfl
  | succ w ih =>
    rw [residues_succ]
    by_cases hp : p ((c + 1) % n) = true
    · obtain ⟨left, rfl⟩ := Nat.exists_eq_add_of_lt hturns
      rw [List.filter_cons_of_pos hp, List.length_cons, visits, ahead, if_pos hp]
      dsimp only
      rw [hmod, ih]
    · rw [List.filter_cons_of_neg hp]
      have htick : ∀ k, visits n p turns c k = visits n p turns (c + 1) k := by
        intro k
        cases k with
        | zero => rfl
        | succ k => rw [visits, visits, ahead_tick hmark hturns hp]
      rw [htick, ih]

/-- Later visits are visits from where one has come to. -/
theorem drop_visits (hturns : n < turns) (c t k : ℕ) :
    ∃ c', (visits n p turns c (t + k)).drop t = visits n p turns c' k := by
  induction t generalizing c with
  | zero => exact ⟨c, by rw [Nat.zero_add, List.drop_zero]⟩
  | succ t ih =>
    obtain ⟨c', hc'⟩ := exists_ahead hmark c
    rw [← ahead_round hmark (Nat.le_of_lt hturns)] at hc'
    obtain ⟨c'', hc''⟩ := ih c'
    refine ⟨c'', ?_⟩
    rw [Nat.succ_add, visits, hc']
    exact hc''

/-- **Every marked residue once in a cycle**, wherever the cycle begins. -/
theorem visits_window (hturns : n < turns) (c t : ℕ) :
    ((visits n p turns c (t + ((List.range n).filter p).length)).drop t).Perm ((List.range n).filter p) := by
  obtain ⟨c', hc'⟩ := drop_visits hmark hturns c t ((List.range n).filter p).length
  have hround := (residues_perm n c').filter p
  rw [hc', ← hround.length_eq, visits_passed hmark hturns]
  exact hround

end

end CyclicScan
