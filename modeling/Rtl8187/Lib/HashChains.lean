/-
# Hash chains

A table of chains. An entry is in the chain its key hashes to, and a chain has at
most one entry of a key, so the table has. An entry comes in at the front of its
chain, or over the one with its key. For every key, what is found is what came in
last, whatever other keys share the chain (`lookup_add`, `lookup_replace`).

Key definitions: `lookup`, `add`, `replace`, `Valid`.
Key theorems: `lookup_add`, `lookup_replace`, `Valid.add`, `Valid.replace`, `Valid.nodup_keys`.
-/
import Mathlib.Data.List.Nodup
import Mathlib.Data.List.Basic
import Mathlib.Logic.Function.Basic

namespace HashChains

variable {ι α κ : Type*} (hash : κ → ι) (key : α → κ)

/-- Every entry is in its chain, and no two of a chain have a key in common. -/
structure Valid (t : ι → List α) : Prop where
  home : ∀ i, ∀ e ∈ t i, hash (key e) = i
  nodup : ∀ i, ((t i).map key).Nodup

theorem valid_empty : Valid hash key fun _ => [] := ⟨fun _ _ h => absurd h List.not_mem_nil, fun _ => List.nodup_nil⟩

/-- **The whole table has a key at most once**, whatever chains it is read from. -/
theorem Valid.nodup_keys {hash : κ → ι} {key : α → κ} {t : ι → List α} (h : Valid hash key t) {is : List ι}
    (his : is.Nodup) : ((is.flatMap t).map key).Nodup := by
  rw [List.map_flatMap, List.nodup_flatMap]
  refine ⟨fun i _ => h.nodup i, his.imp fun {i j} hij => ?_⟩
  intro k hi hj
  obtain ⟨e, he, rfl⟩ := List.mem_map.mp hi
  obtain ⟨e', he', hkey⟩ := List.mem_map.mp hj
  exact hij (by rw [← h.home i e he, ← h.home j e' he', hkey])

variable [DecidableEq κ]

/-- The entry of a key. -/
def lookup (t : ι → List α) (k : κ) : Option α := (t (hash k)).find? fun e => key e = k

/-- An entry, over the first with its key. -/
def overwrite (x : α) (l : List α) : List α := l.replaceF fun e => if key e = key x then some x else none

variable [DecidableEq ι]

/-- An entry at the front of its chain. -/
def add (t : ι → List α) (x : α) : ι → List α :=
  Function.update t (hash (key x)) (x :: t (hash (key x)))

/-- An entry over the one with its key. -/
def replace (t : ι → List α) (x : α) : ι → List α :=
  Function.update t (hash (key x)) (overwrite key x (t (hash (key x))))

section

variable {hash key} {t : ι → List α} {x : α} {k : κ}

theorem overwrite_cons_of_eq {e : α} (h : key e = key x) (l : List α) : overwrite key x (e :: l) = x :: l := by
  simp [overwrite, h]

theorem overwrite_cons_of_ne {e : α} (h : key e ≠ key x) (l : List α) :
    overwrite key x (e :: l) = e :: overwrite key x l := by
  simp [overwrite, h]

/-- The keys of a chain stay what they are. -/
theorem map_overwrite (x : α) (l : List α) : (overwrite key x l).map key = l.map key := by
  induction l with
  | nil => rfl
  | cons e l ih =>
    by_cases he : key e = key x
    · rw [overwrite_cons_of_eq he, List.map_cons, List.map_cons, he]
    · rw [overwrite_cons_of_ne he, List.map_cons, List.map_cons, ih]

/-- In a chain with an entry of its key, the new one is found. -/
theorem find?_overwrite {l : List α} (h : ∃ e ∈ l, key e = key x) (k : κ) :
    (overwrite key x l).find? (fun e => key e = k) =
      if k = key x then some x else l.find? fun e => key e = k := by
  induction l with
  | nil => obtain ⟨e, he, -⟩ := h; cases he
  | cons e l ih =>
    by_cases he : key e = key x
    · rw [overwrite_cons_of_eq he]
      by_cases hk : k = key x
      · rw [if_pos hk, List.find?_cons_of_pos (by simp [hk])]
      · rw [if_neg hk, List.find?_cons_of_neg (by simpa using Ne.symm hk),
          List.find?_cons_of_neg (by simpa [he] using Ne.symm hk)]
    · have hrest : ∃ e ∈ l, key e = key x := by
        obtain ⟨e', hmem, hkey⟩ := h
        rcases List.mem_cons.mp hmem with rfl | hmem
        · exact absurd hkey he
        · exact ⟨e', hmem, hkey⟩
      rw [overwrite_cons_of_ne he]
      by_cases hek : key e = k
      · have hne : k ≠ key x := fun hk => he (hek.trans hk)
        rw [if_neg hne, List.find?_cons_of_pos (by simp [hek]), List.find?_cons_of_pos (by simp [hek])]
      · rw [List.find?_cons_of_neg (by simpa using hek), List.find?_cons_of_neg (by simpa using hek)]
        exact ih hrest

theorem lookup_add (t : ι → List α) (x : α) (k : κ) :
    lookup hash key (add hash key t x) k = if k = key x then some x else lookup hash key t k := by
  unfold lookup add
  by_cases hk : k = key x
  · rw [if_pos hk, hk, Function.update_self, List.find?_cons_of_pos (by simp)]
  · rw [if_neg hk]
    by_cases hh : hash k = hash (key x)
    · rw [hh, Function.update_self, List.find?_cons_of_neg (by simpa using Ne.symm hk)]
    · rw [Function.update_of_ne hh]

theorem lookup_replace (h : (lookup hash key t (key x)).isSome) (k : κ) :
    lookup hash key (replace hash key t x) k = if k = key x then some x else lookup hash key t k := by
  have hfound : ∃ e ∈ t (hash (key x)), key e = key x := by simpa [lookup] using h
  unfold lookup replace
  by_cases hh : hash k = hash (key x)
  · rw [hh, Function.update_self]
    exact find?_overwrite hfound k
  · have hk : k ≠ key x := fun hk => hh (congrArg hash hk)
    rw [if_neg hk, Function.update_of_ne hh]

namespace Valid

/-- An entry with a new key comes in. -/
theorem add (h : Valid hash key t) (hnew : lookup hash key t (key x) = none) :
    Valid hash key (add hash key t x) := by
  have hnot : key x ∉ (t (hash (key x))).map key := by
    intro hmem
    obtain ⟨e, he, hkey⟩ := List.mem_map.mp hmem
    exact absurd (List.find?_eq_none.mp hnew e he) (by simpa using hkey)
  constructor
  · intro i e he
    by_cases hi : i = hash (key x)
    · subst hi
      rw [HashChains.add, Function.update_self] at he
      rcases List.mem_cons.mp he with rfl | he
      · rfl
      · exact h.home _ e he
    · rw [HashChains.add, Function.update_of_ne hi] at he
      exact h.home i e he
  · intro i
    by_cases hi : i = hash (key x)
    · subst hi
      rw [HashChains.add, Function.update_self, List.map_cons, List.nodup_cons]
      exact ⟨hnot, h.nodup _⟩
    · rw [HashChains.add, Function.update_of_ne hi]
      exact h.nodup i

/-- An entry comes in over the one with its key. -/
theorem replace (h : Valid hash key t) (x : α) : Valid hash key (replace hash key t x) := by
  have hkeys : ∀ i, (HashChains.replace hash key t x i).map key = (t i).map key := by
    intro i
    by_cases hi : i = hash (key x)
    · subst hi
      rw [HashChains.replace, Function.update_self, map_overwrite]
    · rw [HashChains.replace, Function.update_of_ne hi]
  constructor
  · intro i e he
    have hmem : key e ∈ (t i).map key := hkeys i ▸ List.mem_map_of_mem he
    obtain ⟨e', he', hkey⟩ := List.mem_map.mp hmem
    rw [← hkey]
    exact h.home i e' he'
  · intro i
    rw [hkeys i]
    exact h.nodup i

end Valid

end

end HashChains
