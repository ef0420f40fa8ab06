/-
# Machines that record the last number they accept

A machine reads inputs, accepts some of them, and keeps a number `r` in its
state: that of the last input accepted. If every accepted input carries more
than what is recorded when it comes, the accepted numbers increase. A machine
that only records, and does not compare, accepts an input twice (`Unchecked`).

Key definitions: `accepted`, `Records`, `Unchecked`.
Key theorems: `record_eq_last`, `accepted_increasing`, `unchecked`.
-/
import Rtl8187.Lib.Run
import Mathlib.Data.List.Chain

namespace Recorder

variable {σ ι : Type*} (step : σ → ι → σ) (acc : σ → ι → Bool) (num : ι → ℕ) (r : σ → ℕ)

/-- The numbers of the accepted inputs, in order. -/
def accepted : σ → List ι → List ℕ
  | _, [] => []
  | s, i :: is =>
    if acc s i then num i :: accepted (step s i) is else accepted (step s i) is

/-- An accepted input is recorded, any other leaves the record alone. -/
def Records : Prop := ∀ s i, r (step s i) = if acc s i then num i else r s

variable {step acc num r}

/-- The record is the last number accepted, or what it was. -/
theorem record_eq_last (h : Records step acc num r) : ∀ (s : σ) (is : List ι),
    r (Run.run step s is) = (accepted step acc num s is).getLastD (r s)
  | s, [] => rfl
  | s, i :: is => by
    have ih := record_eq_last h (step s i) is
    rw [Run.run_cons, ih, h s i, accepted]
    by_cases ha : acc s i = true
    · rw [if_pos ha, if_pos ha, List.getLastD_cons]
    · rw [if_neg ha, if_neg ha]

/-- What every accepted input of the run satisfies, every accepted number does. -/
theorem accepted_all {P : ℕ → Prop} : ∀ (s : σ) (is : List ι),
    Run.AllSteps step (fun s i => acc s i → P (num i)) s is → ∀ n ∈ accepted step acc num s is, P n
  | _, [], _, n, hn => by simp [accepted] at hn
  | s, i :: is, hok, n, hn => by
    rw [accepted] at hn
    by_cases ha : acc s i = true
    · rw [if_pos ha, List.mem_cons] at hn
      rcases hn with rfl | hn
      · exact hok.1 ha
      · exact accepted_all (step s i) is hok.2 n hn
    · rw [if_neg ha] at hn
      exact accepted_all (step s i) is hok.2 n hn

/-- **Fresh inputs are accepted in increasing order**, above the first record. -/
theorem accepted_increasing (h : Records step acc num r) : ∀ (s : σ) (is : List ι),
    Run.AllSteps step (fun s i => acc s i → r s < num i) s is →
    (r s :: accepted step acc num s is).Pairwise (· < ·)
  | s, [], _ => by simp [accepted]
  | s, i :: is, hok => by
    have ih := accepted_increasing h (step s i) is hok.2
    rw [h s i] at ih
    rw [accepted]
    by_cases ha : acc s i = true
    · rw [if_pos ha] at ih ⊢
      rw [List.pairwise_cons] at ih
      refine List.pairwise_cons.mpr ⟨?_, List.pairwise_cons.mpr ih⟩
      intro n hn
      rcases List.mem_cons.mp hn with rfl | hn
      · exact hok.1 ha
      · exact (hok.1 ha).trans (ih.1 n hn)
    · rw [if_neg ha] at ih ⊢
      exact ih

/-- What holds from `s` on of a machine that records without comparing. `out` is
what an input gives, and `init` the number the record is supposed to start from. -/
structure Unchecked {ω : Type*} (step : σ → ι → σ) (acc : σ → ι → Bool) (out : σ → ι → ω)
    (num : ι → ℕ) (r : σ → ℕ) (init : ℕ) (s : σ) : Prop where
  /-- What was accepted is accepted again, with the same outcome. -/
  again : ∀ is i, acc (Run.run step s is) i → acc (Run.run step s (is ++ [i])) i ∧
    out (Run.run step s (is ++ [i])) i = out (Run.run step s is) i
  /-- The record is the last number accepted. -/
  record : ∀ is, r (Run.run step s is) = (accepted step acc num s is).getLastD (r s)
  /-- Inputs above the initial number and the record are accepted in increasing order. -/
  increasing : ∀ is, Run.AllSteps step (fun s i => acc s i → init < num i ∧ r s < num i) s is →
    (init :: accepted step acc num s is).Pairwise (· < ·)

theorem unchecked {ω : Type*} {out : σ → ι → ω} (h : Records step acc num r)
    (hagain : ∀ s i, acc s i → acc (step s i) i ∧ out (step s i) i = out s i) (init : ℕ) (s : σ) :
    Unchecked step acc out num r init s where
  again is i hi := by
    rw [Run.run_append, Run.run_cons, Run.run_nil]
    exact hagain _ i hi
  record := record_eq_last h s
  increasing is hok := by
    have hinit := accepted_all s is (hok.imp fun _ _ hacc ha => (hacc ha).1)
    have hinc := accepted_increasing h s is (hok.imp fun _ _ hacc ha => (hacc ha).2)
    exact List.pairwise_cons.mpr ⟨hinit, (List.pairwise_cons.mp hinc).2⟩

end Recorder
