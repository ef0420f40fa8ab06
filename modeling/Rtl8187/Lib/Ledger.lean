/-
# Ledgers of linear resources

Resources are numbered in the order they are handed out. A ledger is balanced
when each of those handed out is held or has been released, and that exactly
once; it is sound when none is held or used up more than once.

Key definitions: `Balanced`, `Sound`.
Key theorems: `Balanced.count`, `Balanced.move`, `Sound.not_mem_used`.
-/
import Mathlib.Data.List.Perm.Basic
import Mathlib.Data.List.Range
import Mathlib.Data.List.Nodup

namespace Ledger

/-- Each of the resources `0, …, n - 1` is held or released, exactly once. -/
def Balanced (held released : List ℕ) (n : ℕ) : Prop := (held ++ released).Perm (List.range n)

namespace Balanced

variable {held held' released freed : List ℕ} {n : ℕ}

/-- A resource that was handed out is held once or released once. -/
theorem count (h : Balanced held released n) {b : ℕ} (hb : b < n) :
    held.count b + released.count b = 1 := by
  have hcount := h.count_eq b
  rw [List.count_append] at hcount
  rw [hcount, List.count_eq_one_of_mem List.nodup_range (List.mem_range.mpr hb)]

theorem lt (h : Balanced held released n) {b : ℕ} (hb : b ∈ held ∨ b ∈ released) : b < n :=
  List.mem_range.mp (h.mem_iff.mp (List.mem_append.mpr hb))

/-- The next resource is handed out and released. -/
theorem release_next (h : Balanced held released n) : Balanced held (released ++ [n]) (n + 1) := by
  unfold Balanced
  rw [← List.append_assoc, List.range_succ]
  exact h.append_right [n]

/-- The next resource is handed out and held. -/
theorem hold_next (h : Balanced held released n) : Balanced (n :: held) released (n + 1) := by
  unfold Balanced
  rw [List.range_succ, List.cons_append]
  exact (List.perm_append_singleton n _).symm.trans (h.append_right [n])

theorem congr_held (h : Balanced held released n) (hp : held.Perm held') : Balanced held' released n :=
  (hp.symm.append_right released).trans h

theorem congr_released (h : Balanced held released n) (hp : released.Perm freed) :
    Balanced held freed n := (hp.symm.append_left held).trans h

/-- Some of those held are released. -/
theorem move (h : Balanced held released n) (hp : held.Perm (freed ++ held')) :
    Balanced held' (released ++ freed) n := by
  refine List.Perm.trans ?_ h
  calc (held' ++ (released ++ freed)).Perm ((released ++ freed) ++ held') := List.perm_append_comm
    _ = released ++ (freed ++ held') := List.append_assoc _ _ _
    List.Perm _ (released ++ held) := hp.symm.append_left released
    List.Perm _ (held ++ released) := List.perm_append_comm

end Balanced

/-- No resource is held or used up more than once, and all were handed out. -/
structure Sound (held used : List ℕ) (n : ℕ) : Prop where
  nodup : (held ++ used).Nodup
  lt : ∀ b ∈ held ++ used, b < n

namespace Sound

variable {held held' used freed : List ℕ} {n m : ℕ}

/-- What is held has not been used up. -/
theorem not_mem_used (h : Sound held used n) {b : ℕ} (hb : b ∈ held) : b ∉ used :=
  fun hu => (List.disjoint_of_nodup_append h.nodup) hb hu

/-- The next resource is handed out and held. -/
theorem hold_next (h : Sound held used n) : Sound (n :: held) used (n + 1) := by
  refine ⟨?_, fun b hb => ?_⟩
  · rw [List.cons_append, List.nodup_cons]
    exact ⟨fun hn => (h.lt n hn).false, h.nodup⟩
  · rw [List.cons_append, List.mem_cons] at hb
    rcases hb with rfl | hb
    · exact Nat.lt_succ_self _
    · exact Nat.lt_succ_of_lt (h.lt b hb)

/-- Some of those held are let go. -/
theorem drop (h : Sound held used n) (hp : held.Perm (freed ++ held')) : Sound held' used n := by
  have hperm : (held ++ used).Perm (freed ++ (held' ++ used)) := by
    rw [← List.append_assoc]
    exact hp.append_right used
  refine ⟨?_, fun b hb => h.lt b ?_⟩
  · exact (List.nodup_append.mp (hperm.nodup_iff.mp h.nodup)).2.1
  · exact hperm.mem_iff.mpr (List.mem_append_right _ hb)

/-- One of those held is used up. -/
theorem use {b : ℕ} (h : Sound held used n) (hp : held.Perm (b :: held')) :
    Sound held' (used ++ [b]) n := by
  have hperm : (held ++ used).Perm (held' ++ (used ++ [b])) := by
    rw [← List.append_assoc]
    exact (hp.append_right used).trans (List.perm_append_singleton b _).symm
  exact ⟨hperm.nodup_iff.mp h.nodup, fun c hc => h.lt c (hperm.mem_iff.mpr hc)⟩

/-- One of those held, and held no more, is used up. -/
theorem use_of_not_mem {b : ℕ} (h : Sound held used n) (h' : Sound held' used n) (hb : b ∈ held)
    (hb' : b ∉ held') : Sound held' (used ++ [b]) n := by
  have hused := h.not_mem_used hb
  refine ⟨?_, fun c hc => ?_⟩
  · rw [← List.append_assoc]
    refine List.nodup_append.mpr ⟨h'.nodup, List.nodup_singleton b, fun c hc d hd => ?_⟩
    rw [List.mem_singleton.mp hd]
    intro heq
    subst heq
    rcases List.mem_append.mp hc with hc | hc
    · exact hb' hc
    · exact hused hc
  · rw [← List.append_assoc] at hc
    rcases List.mem_append.mp hc with hc | hc
    · exact h'.lt c hc
    · rw [List.mem_singleton.mp hc]
      exact h.lt b (List.mem_append_left _ hb)

/-- One that was in hand is forgotten. -/
theorem forget {b : ℕ} (h : Sound held (used ++ [b]) n) : Sound held used n := by
  have hassoc : held ++ (used ++ [b]) = held ++ used ++ [b] := (List.append_assoc _ _ _).symm
  refine ⟨?_, fun c hc => h.lt c ?_⟩
  · have hn := h.nodup
    rw [hassoc] at hn
    exact (List.nodup_append.mp hn).1
  · rw [hassoc]
    exact List.mem_append_left _ hc

/-- The next resource is handed out and used up. -/
theorem use_next (h : Sound held used n) : Sound held (used ++ [n]) (n + 1) :=
  h.hold_next.use (List.Perm.refl _)

end Sound

end Ledger
