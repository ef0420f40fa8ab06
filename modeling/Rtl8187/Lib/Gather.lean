/-
# Bytes at a list of addresses

What is at some addresses of a memory, in their order, and a string put there. Put at
addresses that differ, it is read back, and addresses that share none with them keep
what they had.

Key definitions: `gather`, `scatter`.
Key theorems: `gather_scatter`, `gather_scatter_of_disjoint`, `scatter_append`,
`scatter_of_not_mem`.
-/
import Rtl8187.Lib.MemOps

namespace Gather

open MemOps

variable {β : Type*}

/-- What is at the addresses. -/
def gather (mem : ℕ → β) (as : List ℕ) : List β := as.map mem

/-- The memory with `bs` put at the addresses. -/
def scatter (mem : ℕ → β) (as : List ℕ) (bs : List β) : ℕ → β :=
  run mem ((as.zip bs).map fun p => Store.set p.1 p.2)

@[simp] theorem length_gather (mem : ℕ → β) (as : List ℕ) : (gather mem as).length = as.length :=
  List.length_map _

theorem gather_append (mem : ℕ → β) (as as' : List ℕ) :
    gather mem (as ++ as') = gather mem as ++ gather mem as' := List.map_append

@[simp] theorem scatter_nil (mem : ℕ → β) (bs : List β) : scatter mem [] bs = mem := rfl

theorem scatter_cons (mem : ℕ → β) (a : ℕ) (as : List ℕ) (b : β) (bs : List β) :
    scatter mem (a :: as) (b :: bs) = scatter (Function.update mem a b) as bs := rfl

theorem scatter_append (mem : ℕ → β) {as bs} (h : as.length = bs.length) (as' : List ℕ) (bs' : List β) :
    scatter mem (as ++ as') (bs ++ bs') = scatter (scatter mem as bs) as' bs' := by
  rw [scatter, List.zip_append h, List.map_append, run_append]
  rfl

theorem scatter_of_not_mem {mem : ℕ → β} {as : List ℕ} {bs : List β} {x : ℕ} (h : x ∉ as) :
    scatter mem as bs x = mem x := by
  apply run_of_not_mem
  intro st hst hx
  obtain ⟨p, hp, rfl⟩ := List.mem_map.mp hst
  exact h (hx ▸ (List.of_mem_zip hp).1)

/-- Addresses that share none with those written keep what they had. -/
theorem gather_scatter_of_disjoint {mem : ℕ → β} {as as' : List ℕ} {bs : List β}
    (h : ∀ a ∈ as', a ∉ as) : gather (scatter mem as bs) as' = gather mem as' :=
  List.map_congr_left fun a ha => scatter_of_not_mem (h a ha)

/-- What is put at addresses that differ is read back. -/
theorem gather_scatter : ∀ {mem : ℕ → β} {as : List ℕ} {bs : List β}, as.Nodup →
    as.length = bs.length → gather (scatter mem as bs) as = bs
  | _, [], [], _, _ => rfl
  | mem, a :: as, b :: bs, hnodup, hlen => by
    obtain ⟨ha, hnodup⟩ := List.nodup_cons.mp hnodup
    have ih := @gather_scatter (Function.update mem a b) as bs hnodup (Nat.succ.inj hlen)
    have hfirst : scatter (Function.update mem a b) as bs a = b := by
      rw [scatter_of_not_mem ha, Function.update_self]
    rw [scatter_cons]
    exact congrArg₂ List.cons hfirst ih

/-- What is there put back. -/
theorem scatter_gather : ∀ (mem : ℕ → β) (as : List ℕ), scatter mem as (gather mem as) = mem
  | _, [] => rfl
  | mem, a :: as => by
    have ih := scatter_gather mem as
    rw [gather, List.map_cons, scatter_cons, Function.update_eq_self]
    exact ih

/-- Two strings put at the same addresses: the second stays. -/
theorem scatter_scatter {mem : ℕ → β} {as : List ℕ} {bs bs' : List β} (h : as.Nodup)
    (hlen : as.length = bs'.length) : scatter (scatter mem as bs) as bs' = scatter mem as bs' := by
  funext x
  by_cases hx : x ∈ as
  · have h1 := @gather_scatter _ (scatter mem as bs) as bs' h hlen
    have h2 := @gather_scatter _ mem as bs' h hlen
    exact List.map_inj_left.mp (h1.trans h2.symm) x hx
  · rw [scatter_of_not_mem hx, scatter_of_not_mem hx, scatter_of_not_mem hx]

end Gather
