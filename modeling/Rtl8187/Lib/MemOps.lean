/-
# Programs that store into a memory

A memory is a function of the address. A store replaces what is at an address by a
function of it: by a constant, or by what is there with something merged in. A
program is a list of stores; where it has no store, the memory stays as it was
(`run_of_not_mem`). A copy loop is the stores of the elements in order, and a loop
that takes several elements a turn is one that takes them one by one (`range_words`).

Key definitions: `Store`, `run`, `copy`.
Key theorems: `run_append`, `run_of_not_mem`, `run_copy`, `run_map_set`, `range_words`.
-/
import Mathlib.Data.List.Basic
import Mathlib.Logic.Function.Basic

namespace MemOps

variable {α : Type*}

/-- A store to an address. -/
structure Store (α : Type*) where
  addr : ℕ
  change : α → α

/-- The address is set. -/
def Store.set (addr : ℕ) (a : α) : Store α := ⟨addr, fun _ => a⟩

/-- The memory after a store. -/
def Store.apply (mem : ℕ → α) (st : Store α) : ℕ → α :=
  Function.update mem st.addr (st.change (mem st.addr))

/-- The memory after a program. -/
def run (mem : ℕ → α) (prog : List (Store α)) : ℕ → α := prog.foldl Store.apply mem

/-- The loop that sets the `n` addresses from `to` on. -/
def copy (dst n : ℕ) (src : ℕ → α) : List (Store α) :=
  (List.range n).map fun i => Store.set (dst + i) (src i)

variable {mem : ℕ → α} {prog : List (Store α)} {i : ℕ}

@[simp] theorem run_nil (mem : ℕ → α) : run mem [] = mem := rfl

@[simp] theorem run_cons (mem : ℕ → α) (st : Store α) (prog : List (Store α)) :
    run mem (st :: prog) = run (st.apply mem) prog := rfl

theorem run_append (mem : ℕ → α) (prog prog' : List (Store α)) :
    run mem (prog ++ prog') = run (run mem prog) prog' := List.foldl_append

@[simp] theorem set_apply_self (mem : ℕ → α) (i : ℕ) (a : α) : (Store.set i a).apply mem i = a :=
  Function.update_self ..

theorem apply_of_ne {st : Store α} (h : i ≠ st.addr) : st.apply mem i = mem i :=
  Function.update_of_ne h ..

/-- What no store goes to stays. -/
theorem run_of_not_mem : ∀ {mem : ℕ → α} {prog : List (Store α)}, (∀ st ∈ prog, st.addr ≠ i) →
    run mem prog i = mem i
  | _, [], _ => rfl
  | mem, st :: prog, h => by
    rw [run_cons, run_of_not_mem fun st' hst' => h st' (List.mem_cons_of_mem _ hst')]
    exact apply_of_ne (h st List.mem_cons_self).symm

theorem addr_copy {dst n : ℕ} {src : ℕ → α} {st : Store α} (h : st ∈ copy dst n src) :
    dst ≤ st.addr ∧ st.addr < dst + n := by
  obtain ⟨k, hk, rfl⟩ := List.mem_map.mp h
  have hlt := List.mem_range.mp hk
  exact ⟨Nat.le_add_right dst k, Nat.add_lt_add_left hlt dst⟩

/-- **A copy loop** leaves the elements where it has been. -/
theorem run_copy (mem : ℕ → α) (dst : ℕ) (src : ℕ → α) {n k : ℕ} (hk : k < n) :
    run mem (copy dst n src) (dst + k) = src k := by
  induction n with
  | zero => exact absurd hk (Nat.not_lt_zero k)
  | succ n ih =>
    unfold copy at ih ⊢
    rw [List.range_succ, List.map_append, run_append]
    show (Store.set (dst + n) (src n)).apply _ (dst + k) = src k
    by_cases hlast : k = n
    · rw [hlast, set_apply_self]
    · rw [apply_of_ne fun h => hlast (Nat.add_left_cancel h)]
      exact ih (by omega)

/-- Addresses that are all set to one value. -/
theorem run_map_set (mem : ℕ → α) (a : α) (l : List ℕ) (i : ℕ) :
    run mem (l.map (Store.set · a)) i = if i ∈ l then a else mem i := by
  induction l generalizing mem with
  | nil => rfl
  | cons j l ih =>
    rw [List.map_cons, run_cons, ih]
    by_cases hin : i ∈ l
    · rw [if_pos hin, if_pos (List.mem_cons_of_mem j hin)]
    · rw [if_neg hin]
      by_cases heq : i = j
      · rw [heq, set_apply_self, if_pos List.mem_cons_self]
      · rw [apply_of_ne heq, if_neg (by simp [heq, hin])]

/-- `n` turns of `w` elements each are the elements one by one. -/
theorem range_words {β : Type*} (w n : ℕ) (f : ℕ → β) :
    ((List.range n).flatMap fun i => (List.range w).map fun j => f (w * i + j)) =
      (List.range (w * n)).map f := by
  induction n with
  | zero => simp
  | succ n ih =>
    rw [List.range_succ, List.flatMap_append, ih, Nat.mul_succ, List.range_add, List.map_append]
    simp [Function.comp_def]

/-- Two copies of adjacent pieces are one. -/
theorem copy_append (dst m n : ℕ) (src : ℕ → α) :
    copy dst m src ++ copy (dst + m) n (fun i => src (m + i)) = copy dst (m + n) src := by
  unfold copy
  rw [List.range_add, List.map_append, List.map_map]
  congr 1
  apply List.map_congr_left
  intro i _
  show Store.set (dst + m + i) (src (m + i)) = Store.set (dst + (m + i)) (src (m + i))
  rw [Nat.add_assoc]

end MemOps
