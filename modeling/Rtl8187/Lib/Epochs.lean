/-
# Numbered uses of keys

A context has a key, or none, and a number. A use takes both and steps the
number; to install a key sets the number back. While no key is installed that
was there before, no pair of key and number is used twice (`nodup_pairs`). A
machine whose steps do these things to a key and a number of its state
(`Counts`) uses the same pairs, as long as it uses nothing without a key and
its counter does not run out.

Key definitions: `Event`, `pairs`, `installed`, `Counts`, `used`, `Call`, `Guarded`.
Key theorems: `nodup_pairs`, `Counts.outputs_eq`, `Counts.nodup_calls`.
-/
import Rtl8187.Lib.Run
import Mathlib.Data.List.Nodup
import Mathlib.Data.List.Range

namespace Epochs

variable {κ : Type*}

/-- What is done to a context. -/
inductive Event (κ : Type*) where
  | install (k : κ)
  | remove
  | use
  | rest

/-- The pairs used, from key `k` and number `n` on. -/
def pairs (start : ℕ) : Option κ → ℕ → List (Event κ) → List (κ × ℕ)
  | _, _, [] => []
  | _, _, .install k :: es => pairs start (some k) start es
  | _, n, .remove :: es => pairs start none n es
  | k, n, .use :: es => (k.map fun k => (k, n)).toList ++ pairs start k (n + 1) es
  | k, n, .rest :: es => pairs start k n es

/-- The keys installed, in order. -/
def installed : List (Event κ) → List κ
  | [] => []
  | .install k :: es => k :: installed es
  | .remove :: es => installed es
  | .use :: es => installed es
  | .rest :: es => installed es

/-- The number of uses. -/
def uses : List (Event κ) → ℕ
  | [] => 0
  | .install _ :: es => uses es
  | .remove :: es => uses es
  | .use :: es => uses es + 1
  | .rest :: es => uses es

/-- Without a key the number does not matter. -/
theorem pairs_none {start : ℕ} : ∀ (es : List (Event κ)) (n m : ℕ),
    pairs start none n es = pairs start none m es
  | [], _, _ => rfl
  | .install _ :: _, _, _ => rfl
  | .remove :: es, n, m => pairs_none es n m
  | .use :: es, n, m => pairs_none es (n + 1) (m + 1)
  | .rest :: es, n, m => pairs_none es n m

/-- A pair is of the present key, from its number on, or of one installed later. -/
theorem mem_pairs {start : ℕ} : ∀ (es : List (Event κ)) {k : Option κ} {n : ℕ} {p : κ × ℕ},
    p ∈ pairs start k n es → k = some p.1 ∧ n ≤ p.2 ∨ p.1 ∈ installed es
  | [], _, _, _, h => by cases h
  | .install k :: es, _, _, p, h => by
    obtain ⟨hk, -⟩ | hk := mem_pairs es h
    · exact Or.inr (Option.some.inj hk ▸ List.mem_cons_self)
    · exact Or.inr (List.mem_cons_of_mem _ hk)
  | .remove :: es, _, _, _, h => by
    obtain ⟨hk, -⟩ | hk := mem_pairs es h
    · cases hk
    · exact Or.inr hk
  | .use :: es, k, n, p, h => by
    obtain h | h := List.mem_append.mp h
    · obtain ⟨k', rfl, rfl⟩ := Option.map_eq_some_iff.mp (Option.mem_toList.mp h)
      exact Or.inl ⟨rfl, Nat.le_refl _⟩
    · obtain ⟨hk, hn⟩ | hk := mem_pairs es h
      · exact Or.inl ⟨hk, (Nat.le_succ n).trans hn⟩
      · exact Or.inr hk
  | .rest :: es, _, _, _, h => mem_pairs es h

/-- **No pair is used twice** while no key comes twice. -/
theorem nodup_pairs {start : ℕ} : ∀ (es : List (Event κ)) {k : Option κ} {n : ℕ},
    (k.toList ++ installed es).Nodup → (pairs start k n es).Nodup
  | [], _, _, _ => List.nodup_nil
  | .install _ :: es, _, _, h => nodup_pairs es (List.Nodup.of_append_right h)
  | .remove :: es, _, _, h => nodup_pairs es (List.Nodup.of_append_right h)
  | .use :: es, none, _, h => nodup_pairs es h
  | .use :: es, some k, n, h => by
    refine List.nodup_cons.mpr ⟨fun hmem => ?_, nodup_pairs es h⟩
    obtain ⟨-, hn⟩ | hk := mem_pairs es hmem
    · exact absurd hn (Nat.not_succ_le_self n)
    · exact (List.nodup_cons.mp h).1 hk
  | .rest :: es, _, _, h => nodup_pairs es h

/-! ### Machines -/

section

variable {σ ι : Type*} (step : σ → ι → σ) (event : σ → ι → Event κ) (key : σ → Option κ)
  (num : σ → ℕ)

/-- The events of a run. -/
def events : σ → List ι → List (Event κ)
  | _, [] => []
  | s, i :: is => event s i :: events (step s i) is

/-- The key and the number a step uses, if it uses any. -/
def useOf (s : σ) (i : ι) : Option (κ × ℕ) :=
  match event s i with
  | .use => (key s).map fun k => (k, num s)
  | _ => none

/-- The pairs a run uses. -/
def used : σ → List ι → List (κ × ℕ) := Run.outputs step (useOf event key num)

/-- A step does to key and number what its event says, up to the limit of the
counter. -/
structure Counts (start limit : ℕ) : Prop where
  install : ∀ s i k, event s i = .install k → key (step s i) = some k ∧ num (step s i) = start
  remove : ∀ s i, event s i = .remove → key (step s i) = none
  use : ∀ s i, event s i = .use → num s < limit →
    key (step s i) = key s ∧ num (step s i) = num s + 1
  rest : ∀ s i, event s i = .rest → key (step s i) = key s ∧ num (step s i) = num s

/-- A step uses nothing without a key, nor a counter that has run out. -/
def Below (limit : ℕ) (s : σ) (i : ι) : Prop :=
  event s i = .use → (key s).isSome = true ∧ num s < limit

variable {step event key num}

/-- The machine uses the pairs of its events. -/
theorem Counts.used_eq {start limit : ℕ} (h : Counts step event key num start limit) :
    ∀ (s : σ) (is : List ι), Run.AllSteps step (Below event key num limit) s is →
      used step event key num s is = pairs start (key s) (num s) (events step event s is)
  | _, [], _ => rfl
  | s, i :: is, hok => by
    have ih := h.used_eq (step s i) is hok.2
    unfold used at ih
    rw [used, Run.outputs, ih, events]
    cases he : event s i with
    | install k =>
      obtain ⟨hk, hn⟩ := h.install s i k he
      rw [useOf, he, hk, hn]
      rfl
    | remove =>
      rw [useOf, he, h.remove s i he, pairs_none _ _ (num s)]
      rfl
    | use =>
      obtain ⟨hk, hn⟩ := h.use s i he (hok.1 he).2
      rw [useOf, he, hk, hn]
      rfl
    | rest =>
      obtain ⟨hk, hn⟩ := h.rest s i he
      rw [useOf, he, hk, hn]
      rfl

/-- The keys a run installs are those its inputs name. -/
theorem installed_events {inst : ι → Option κ}
    (hinst : ∀ s i k, event s i = .install k ↔ inst i = some k) (s : σ) (is : List ι) :
    installed (events step event s is) = is.filterMap inst := by
  induction is generalizing s with
  | nil => rfl
  | cons i is ih =>
    have hi := hinst s i
    rw [events, List.filterMap_cons]
    cases he : event s i with
    | install k =>
      rw [(hi k).mp he]
      exact congrArg (k :: ·) (ih (step s i))
    | remove | use | rest =>
      have hnone : inst i = none := by
        refine Option.eq_none_iff_forall_ne_some.mpr fun k hk => ?_
        have hinstall := (hi k).mpr hk
        rw [he] at hinstall
        cases hinstall
      rw [hnone]
      exact ih (step s i)

/-- So what shows the pairs of a run shows no pair twice, while no key is
installed twice. -/
theorem Counts.nodup_outputs {start limit : ℕ} (h : Counts step event key num start limit)
    {inst : ι → Option κ} (hinst : ∀ s i k, event s i = .install k ↔ inst i = some k)
    {out : σ → ι → Option (κ × ℕ)} {f : κ × ℕ → κ × ℕ} (hf : Function.Injective f)
    (hout : ∀ s i, Below event key num limit s i → out s i = (useOf event key num s i).map f)
    (s : σ) (is : List ι) (hok : Run.AllSteps step (Below event key num limit) s is)
    (hnew : ((key s).toList ++ is.filterMap inst).Nodup) : (Run.outputs step out s is).Nodup := by
  rw [← installed_events hinst s is] at hnew
  have hpairs : (used step event key num s is).Nodup := by
    rw [h.used_eq s is hok]
    exact nodup_pairs _ hnew
  rw [Run.outputs_congr (hok.imp hout), Run.outputs_map]
  exact hpairs.map hf

theorem uses_events_le (s : σ) (is : List ι) : uses (events step event s is) ≤ is.length := by
  induction is generalizing s with
  | nil => exact Nat.le_refl _
  | cons i is ih =>
    have hrest := ih (step s i)
    rw [events, List.length_cons]
    cases event s i with
    | use => exact Nat.succ_le_succ hrest
    | install k => exact hrest.trans (Nat.le_succ _)
    | remove => exact hrest.trans (Nat.le_succ _)
    | rest => exact hrest.trans (Nat.le_succ _)

section

variable {β : Type*} {out : σ → ι → Option β}

/-- Where every use gives something out and nothing else does, there are as
many outputs as uses. -/
theorem length_outputs (hout : ∀ s i, (out s i).isSome = true ↔ event s i = .use) (s : σ)
    (is : List ι) : (Run.outputs step out s is).length = uses (events step event s is) := by
  induction is generalizing s with
  | nil => rfl
  | cons i is ih =>
    have hone := hout s i
    rw [Run.outputs, List.length_append, ih, events]
    cases he : event s i with
    | use =>
      obtain ⟨b, hb⟩ := Option.isSome_iff_exists.mp (hone.mpr he)
      rw [hb, uses]
      exact Nat.add_comm 1 _
    | install k =>
      have hnone : out s i = none := by simpa [he] using hone
      simp [hnone, uses]
    | remove =>
      have hnone : out s i = none := by simpa [he] using hone
      simp [hnone, uses]
    | rest =>
      have hnone : out s i = none := by simpa [he] using hone
      simp [hnone, uses]

/-- Outputs that show the counter count up with it, under one key. -/
theorem Counts.outputs_eq {start limit : ℕ} (h : Counts step event key num start limit)
    (hone : ∀ s i, event s i = .use ∨ event s i = .rest) {val : β → ℕ} {f : ℕ → ℕ}
    (hout : ∀ s i, num s < limit → event s i = .use → (out s i).map val = some (f (num s)))
    (hrest : ∀ s i, event s i = .rest → out s i = none) (s : σ) (is : List ι)
    (hle : num s + uses (events step event s is) ≤ limit) :
    (Run.outputs step out s is).map val =
      (List.range' (num s) (uses (events step event s is))).map f := by
  induction is generalizing s with
  | nil => rfl
  | cons i is ih =>
    rw [events] at hle ⊢
    obtain he | he := hone s i
    · rw [he, uses] at hle ⊢
      have hlt : num s < limit := by omega
      obtain ⟨-, hn⟩ := h.use s i he hlt
      obtain ⟨b, hb, hval⟩ := Option.map_eq_some_iff.mp (hout s i hlt he)
      rw [Run.outputs, hb, List.map_append, ih (step s i) (by omega), hn, List.range'_succ,
        List.map_cons, Option.toList_some, List.map_singleton, hval]
      rfl
    · rw [he, uses] at hle ⊢
      obtain ⟨-, hn⟩ := h.rest s i he
      rw [Run.outputs, hrest s i he, Option.toList_none, List.nil_append, ih (step s i) (by omega), hn]

end

end

/-! ### Machines that are given keys -/

/-- A call on a context: to install a key, or to do something with it. -/
inductive Call (α ι : Type*) where
  | install (a : α)
  | call (i : ι)

section

variable {σ ι α β : Type*} (set : σ → α → σ) (step : σ → ι → σ) (inst : α → Option κ)
  (event : σ → ι → Event κ) (key : σ → κ) (live : σ → Bool) (num : σ → ℕ)

def callStep (s : σ) : Call α ι → σ
  | .install a => set s a
  | .call i => step s i

/-- A call that is to install a key and does not removes the one there is. -/
def callEvent (s : σ) : Call α ι → Event κ
  | .install a => (inst a).elim .remove .install
  | .call i => event s i

/-- The key a call installs. -/
def callKey : Call α ι → Option κ
  | .install a => inst a
  | .call _ => none

/-- What the calls other than installing give out. -/
def callOut (out : σ → ι → Option β) (s : σ) : Call α ι → Option β
  | .install _ => none
  | .call i => out s i

/-- The key that may be used. -/
def liveKey (s : σ) : Option κ := if live s then some (key s) else none

/-- To set a key installs it, or leaves none. -/
structure Sets (start : ℕ) : Prop where
  some : ∀ s a k, inst a = some k → live (set s a) = true ∧ key (set s a) = k ∧ num (set s a) = start
  none : ∀ s a, inst a = none → live (set s a) = false

variable {set step inst event key live num}

theorem Counts.calls {start limit : ℕ}
    (h : Counts step event (fun s => some (key s)) num start limit)
    (hevent : ∀ s i, event s i = .use ∨ event s i = .rest)
    (hlive : ∀ s i, live (step s i) = live s) (hset : Sets set inst key live num start) :
    Counts (callStep set step) (callEvent inst event) (liveKey key live) num start limit where
  install
    | s, .install a, k, he => by
      cases hk : inst a with
      | none =>
        rw [callEvent, hk] at he
        cases he
      | some k' =>
        rw [callEvent, hk] at he
        cases he
        obtain ⟨hl, hkey, hn⟩ := hset.some s a k hk
        exact ⟨by rw [callStep, liveKey, hl, hkey, if_pos rfl], hn⟩
    | s, .call i, k, he => by
      obtain he' | he' := hevent s i <;> rw [callEvent, he'] at he <;> cases he
  remove
    | s, .install a, he => by
      cases hk : inst a with
      | none => rw [callStep, liveKey, hset.none s a hk, if_neg Bool.false_ne_true]
      | some k =>
        rw [callEvent, hk] at he
        cases he
    | s, .call i, he => by
      obtain he' | he' := hevent s i <;> rw [callEvent, he'] at he <;> cases he
  use
    | s, .install a, he, _ => by cases hk : inst a <;> rw [callEvent, hk] at he <;> cases he
    | s, .call i, he, hlt => by
      obtain ⟨hkey, hn⟩ := h.use s i he hlt
      exact ⟨by rw [callStep, liveKey, liveKey, hlive, Option.some.inj hkey], hn⟩
  rest
    | s, .install a, he => by cases hk : inst a <;> rw [callEvent, hk] at he <;> cases he
    | s, .call i, he => by
      obtain ⟨hkey, hn⟩ := h.rest s i he
      exact ⟨by rw [callStep, liveKey, liveKey, hlive, Option.some.inj hkey], hn⟩

/-- A call that uses a key finds it live, and a counter that has not run out. -/
def Guarded (event : σ → ι → Event κ) (live : σ → Bool) (num : σ → ℕ) (limit : ℕ) (s : σ) :
    Call α ι → Prop
  | .install _ => True
  | .call i => event s i = .use → live s = true ∧ num s < limit

/-- **What is given out under live keys is given out once**, while no key is
installed twice: a use gives out its key, and its number under `f`. -/
theorem Counts.nodup_calls {start limit : ℕ}
    (h : Counts step event (fun s => some (key s)) num start limit)
    (hevent : ∀ s i, event s i = .use ∨ event s i = .rest)
    (hlive : ∀ s i, live (step s i) = live s) (hset : Sets set inst key live num start)
    {out : σ → ι → Option (κ × ℕ)} {f : ℕ → ℕ} (hf : Function.Injective f)
    (hout : ∀ s i, num s < limit → event s i = .use → out s i = some (key s, f (num s)))
    (hrest : ∀ s i, event s i = .rest → out s i = none) (s : σ) (cs : List (Call α ι))
    (hok : Run.AllSteps (callStep set step) (Guarded event live num limit) s cs)
    (hnew : ((liveKey key live s).toList ++ cs.filterMap (callKey inst)).Nodup) :
    (Run.outputs (callStep set step) (callOut out) s cs).Nodup := by
  have hinst : ∀ s (c : Call α ι) k, callEvent inst event s c = .install k ↔ callKey inst c = some k := by
    intro s c k
    cases c with
    | install a =>
      rw [callEvent, callKey]
      cases inst a <;> simp
    | call i =>
      obtain he | he := hevent s i <;> simp [callEvent, callKey, he]
  have hbelow : ∀ s (c : Call α ι), Guarded event live num limit s c →
      Below (callEvent inst event) (liveKey key live) num limit s c := by
    intro s c hc he
    cases c with
    | install a => cases hk : inst a <;> rw [callEvent, hk] at he <;> cases he
    | call i =>
      obtain ⟨hl, hlt⟩ := hc he
      exact ⟨by rw [liveKey, hl, if_pos rfl]; rfl, hlt⟩
  have hpairs : Function.Injective fun p : κ × ℕ => (p.1, f p.2) := by
    intro p q h
    obtain ⟨hk, hn⟩ := Prod.mk.inj h
    exact Prod.ext hk (hf hn)
  refine (h.calls hevent hlive hset).nodup_outputs hinst hpairs ?_ s cs (hok.imp hbelow) hnew
  intro s c hc
  cases c with
  | install a =>
    rw [callOut, useOf, callEvent]
    cases inst a <;> rfl
  | call i =>
    obtain he | he := hevent s i
    · obtain ⟨hl, hlt⟩ := hc he
      have hkey : liveKey key live s = some (key s) := by
        rw [liveKey] at hl ⊢
        split_ifs at hl ⊢
        · rfl
        · cases hl
      rw [callOut, hout s i hlt he, useOf, callEvent, he, hkey]
      rfl
    · rw [callOut, hrest s i he, useOf, callEvent, he]
      rfl

end

end Epochs
