/-
# A table of slots with distinct keys

A fixed number of slots, each of which is free or in use; no two slots in use
have values with the same key. A value comes in over the one with its key, into a
free slot, or into a slot that is given up for it.

Key definitions: `Table`, `Valid`, `Holds`.
Key theorems: `Valid.write`, `Valid.allocate`, `Valid.evict`, `Valid.exists_used`.
-/
import Mathlib.Data.List.Perm.Basic
import Mathlib.Logic.Function.Basic

namespace KeyedTable

variable {ι α κ : Type*}

/-- The slots that are free and those in use, with what all of them hold. -/
structure Table (ι α : Type*) where
  free : List ι
  used : List ι
  val : ι → α

/-- Every one of `slots` is free or in use, once, and no two in use have a key in
common. -/
structure Valid (slots : List ι) (key : α → κ) (t : Table ι α) : Prop where
  perm : (t.free ++ t.used).Perm slots
  nodup : (t.free ++ t.used).Nodup
  keys : ∀ i ∈ t.used, ∀ j ∈ t.used, key (t.val i) = key (t.val j) → i = j

/-- A slot in use has a value with this key. -/
def Holds (key : α → κ) (t : Table ι α) (k : κ) : Prop := ∃ i ∈ t.used, key (t.val i) = k

theorem valid_empty {slots : List ι} (h : slots.Nodup) (key : α → κ) (val : ι → α) :
    Valid slots key ⟨slots, [], val⟩ :=
  ⟨by rw [List.append_nil], by rwa [List.append_nil], nofun⟩

namespace Valid

variable {slots : List ι} {key : α → κ} {t : Table ι α} {i : ι} {x : α}

/-- A slot that is in use is no free one. -/
theorem not_mem_used (h : Valid slots key t) (hi : i ∈ t.free) : i ∉ t.used :=
  fun hu => (List.nodup_append.mp h.nodup).2.2 i hi i hu rfl

/-- Where nothing is free, something is in use. -/
theorem exists_used (h : Valid slots key t) (hne : slots ≠ []) (hfree : t.free = []) : t.used ≠ [] := by
  intro hused
  have hperm := h.perm
  rw [hfree, hused, List.append_nil] at hperm
  exact hne (List.nil_perm.mp hperm)

variable [DecidableEq ι]

/-- A value is written over one with the same key. -/
theorem write (h : Valid slots key t) (hx : key x = key (t.val i)) :
    Valid slots key ⟨t.free, t.used, Function.update t.val i x⟩ := by
  have hkey : ∀ j, key (Function.update t.val i x j) = key (t.val j) := by
    intro j
    by_cases hj : j = i
    · rw [hj, Function.update_self, hx]
    · rw [Function.update_of_ne hj]
  refine ⟨h.perm, h.nodup, fun j hj k hk hjk => h.keys j hj k hk ?_⟩
  dsimp only at hjk
  rwa [hkey, hkey] at hjk

/-- The keys of other slots when a value with a new key has come into slot `i`. -/
theorem keys_enter {used : List ι} (hnew : ∀ j ∈ used, key (t.val j) ≠ key x)
    (hkeys : ∀ j ∈ used, ∀ k ∈ used, key (t.val j) = key (t.val k) → j = k) (hi : i ∉ used) :
    ∀ j ∈ used ++ [i], ∀ k ∈ used ++ [i],
      key (Function.update t.val i x j) = key (Function.update t.val i x k) → j = k := by
  have hold : ∀ j ∈ used, Function.update t.val i x j = t.val j := by
    intro j hj
    exact Function.update_of_ne (ne_of_mem_of_not_mem hj hi) _ _
  intro j hj k hk hjk
  rcases List.mem_append.mp hj with hj | hj <;> rcases List.mem_append.mp hk with hk | hk
  · rw [hold j hj, hold k hk] at hjk
    exact hkeys j hj k hk hjk
  · rw [List.mem_singleton] at hk
    rw [hk, hold j hj, Function.update_self] at hjk
    exact absurd hjk (hnew j hj)
  · rw [List.mem_singleton] at hj
    rw [hj, hold k hk, Function.update_self] at hjk
    exact absurd hjk.symm (hnew k hk)
  · rw [List.mem_singleton] at hj hk
    rw [hj, hk]

/-- A value with a new key comes into a free slot. -/
theorem allocate (h : Valid slots key t) {free : List ι} (hfree : t.free = i :: free)
    (hnew : ∀ j ∈ t.used, key (t.val j) ≠ key x) :
    Valid slots key ⟨free, t.used ++ [i], Function.update t.val i x⟩ := by
  have hperm : (free ++ (t.used ++ [i])).Perm (t.free ++ t.used) := by
    rw [hfree, ← List.append_assoc]
    exact List.perm_append_singleton i (free ++ t.used)
  refine ⟨hperm.trans h.perm, hperm.nodup_iff.mpr h.nodup, ?_⟩
  exact keys_enter hnew h.keys (h.not_mem_used (hfree ▸ List.mem_cons_self))

/-- A value with a new key comes into a slot that is in use. -/
theorem evict (h : Valid slots key t) (hi : i ∈ t.used) (hnew : ∀ j ∈ t.used, key (t.val j) ≠ key x) :
    Valid slots key ⟨t.free, t.used.erase i ++ [i], Function.update t.val i x⟩ := by
  have hused : t.used.Nodup := (List.nodup_append.mp h.nodup).2.1
  have hperm : (t.free ++ (t.used.erase i ++ [i])).Perm (t.free ++ t.used) :=
    List.Perm.append_left t.free ((List.perm_append_singleton i (t.used.erase i)).trans
      (List.perm_cons_erase hi).symm)
  refine ⟨hperm.trans h.perm, hperm.nodup_iff.mpr h.nodup, ?_⟩
  exact keys_enter (fun j hj => hnew j (List.mem_of_mem_erase hj))
    (fun j hj k hk => h.keys j (List.mem_of_mem_erase hj) k (List.mem_of_mem_erase hk)) hused.not_mem_erase

end Valid

/-- What has come in is held. -/
theorem holds_update [DecidableEq ι] {key : α → κ} {free used : List ι} {val : ι → α} {i : ι} (hi : i ∈ used)
    (x : α) : Holds key ⟨free, used, Function.update val i x⟩ (key x) :=
  ⟨i, hi, congrArg key (Function.update_self i x val)⟩

end KeyedTable
