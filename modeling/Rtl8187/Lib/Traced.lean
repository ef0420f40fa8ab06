/-
# Computations that show what they read

A computation in `Traced α` gives a value, and the accesses it makes on the
way: the byte at an index that is to lie in a range, and the unsigned
difference of two numbers. `All p` says that every access meets `p`; it is
taken apart along the computation.

Key definitions: `Access`, `Access.Safe`, `Traced`, `Traced.All`.
Key theorems: `all_bind`, `all_mapM`, `value_mapM`.
-/
import Mathlib.Data.List.Basic

/-- An access of a program to its memory or its counters. -/
inductive Access where
  /-- The byte at `i` is read, which is to be at least `lo` and below `hi`. -/
  | read (i lo hi : ℕ)
  /-- `b` is subtracted from the unsigned `a`. -/
  | sub (a b : ℕ)

/-- The read is in its range, the difference does not wrap. -/
def Access.Safe : Access → Prop
  | .read i lo hi => lo ≤ i ∧ i < hi
  | .sub a b => b ≤ a

instance : DecidablePred Access.Safe
  | .read i lo hi => inferInstanceAs (Decidable (lo ≤ i ∧ i < hi))
  | .sub a b => inferInstanceAs (Decidable (b ≤ a))

/-- A value, and the accesses made on the way to it. -/
structure Traced (α : Type) where
  value : α
  log : List Access

namespace Traced

variable {α β : Type}

instance : Monad Traced where
  pure a := ⟨a, []⟩
  bind x f := ⟨(f x.value).value, x.log ++ (f x.value).log⟩

/-- The value `a`, by these accesses. -/
def ofLog (log : List Access) (a : α) : Traced α := ⟨a, log⟩

/-- An unsigned difference. -/
def sub (a b : ℕ) : Traced Unit := ofLog [.sub a b] ()

/-- Every access meets `p`. -/
def All (p : Access → Prop) (x : Traced α) : Prop := ∀ a ∈ x.log, p a

instance (p : Access → Prop) [DecidablePred p] (x : Traced α) : Decidable (x.All p) :=
  inferInstanceAs (Decidable (∀ a ∈ x.log, p a))

@[simp] theorem value_pure (a : α) : (pure a : Traced α).value = a := rfl

@[simp] theorem value_bind (x : Traced α) (f : α → Traced β) :
    (x >>= f).value = (f x.value).value := rfl

theorem value_ite (c : Prop) [Decidable c] (x y : Traced α) :
    (if c then x else y).value = if c then x.value else y.value := apply_ite value c x y

@[simp] theorem value_map (f : α → β) (x : Traced α) : (f <$> x).value = f x.value := rfl

variable {p : Access → Prop}

@[simp] theorem all_pure (a : α) : (pure a : Traced α).All p ↔ True :=
  iff_of_true (fun _ h => absurd h List.not_mem_nil) trivial

theorem pure_all (a : α) : (pure a : Traced α).All p := (all_pure a).mpr trivial

@[simp] theorem all_bind (x : Traced α) (f : α → Traced β) :
    (x >>= f).All p ↔ x.All p ∧ (f x.value).All p := by
  simp only [All, bind, List.mem_append, or_imp, forall_and]

instance : LawfulMonad Traced :=
  LawfulMonad.mk' Traced (fun x => by simp [Functor.map]) (fun a f => by simp [bind, pure])
    (fun x f g => by simp [bind, List.append_assoc])

@[simp] theorem all_map (f : α → β) (x : Traced α) : (f <$> x).All p ↔ x.All p :=
  (all_bind x fun a => pure (f a)).trans (and_iff_left (pure_all _))

theorem all_ite (c : Prop) [Decidable c] (x y : Traced α) :
    (if c then x else y).All p ↔ (c → x.All p) ∧ (¬ c → y.All p) := by
  by_cases hc : c
  · simp [hc]
  · simp [hc]

@[simp] theorem value_ofLog (log : List Access) (a : α) : (ofLog log a).value = a := rfl

@[simp] theorem all_sub (a b : ℕ) : (sub a b).All p ↔ p (.sub a b) := List.forall_mem_singleton

/-- A list of computations, one after the other. -/
theorem value_mapM (f : α → Traced β) : ∀ l : List α,
    (l.mapM f).value = l.map fun a => (f a).value
  | [] => by simp
  | a :: l => by
    rw [List.mapM_cons, value_bind, value_bind, value_pure, value_mapM f l, List.map_cons]

theorem all_mapM (f : α → Traced β) : ∀ l : List α, (l.mapM f).All p ↔ ∀ a ∈ l, (f a).All p
  | [] => by simp
  | a :: l => by
    rw [List.mapM_cons, all_bind, all_bind, all_mapM f l, List.forall_mem_cons]
    simp

end Traced
