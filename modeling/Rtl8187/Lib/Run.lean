/-
# Runs of a state machine

A deterministic machine fed a list of inputs. `AllSteps ok` says that every
step of a run meets `ok`, a condition on the state before the step and its
input; an invariant that such steps keep holds after the run (`inv_run`).

A step may give something out, and the run gives all of it in order (`outputs`).

Key definitions: `run`, `AllSteps`, `outputs`.
Key theorems: `inv_run`, `inv_count`, `run_append`, `allSteps_append`, `view_run`, `forall_take_iff`,
`forall_outputs`, `length_outputs`, `getLast_outputs`.
-/
import Mathlib.Data.List.Basic
import Mathlib.Data.List.Induction

namespace Run

variable {σ ι : Type*} (step : σ → ι → σ)

/-- The state after the inputs `is`. -/
def run (s : σ) (is : List ι) : σ := is.foldl step s

/-- Every step of the run from `s` meets `ok`. -/
def AllSteps (ok : σ → ι → Prop) : σ → List ι → Prop
  | _, [] => True
  | s, i :: is => ok s i ∧ AllSteps ok (step s i) is

instance decidableAllSteps (ok : σ → ι → Prop) [∀ s i, Decidable (ok s i)] :
    ∀ (s : σ) (is : List ι), Decidable (AllSteps step ok s is)
  | _, [] => isTrue trivial
  | s, i :: is =>
    have := decidableAllSteps ok (step s i) is
    inferInstanceAs (Decidable (ok s i ∧ AllSteps step ok (step s i) is))

@[simp] theorem run_nil (s : σ) : run step s [] = s := rfl

@[simp] theorem run_cons (s : σ) (i : ι) (is : List ι) :
    run step s (i :: is) = run step (step s i) is := rfl

theorem run_append (s : σ) (is js : List ι) :
    run step s (is ++ js) = run step (run step s is) js := List.foldl_append

variable {step} {ok : σ → ι → Prop}

theorem allSteps_append : ∀ {s : σ} {is js : List ι},
    AllSteps step ok s (is ++ js) ↔ AllSteps step ok s is ∧ AllSteps step ok (run step s is) js
  | _, [], _ => by simp [AllSteps]
  | s, i :: is, js => by
    simp [AllSteps, @allSteps_append (step s i) is js, and_assoc]

theorem allSteps_true : ∀ (s : σ) (is : List ι), AllSteps step (fun _ _ => True) s is
  | _, [] => trivial
  | s, i :: is => ⟨trivial, allSteps_true (step s i) is⟩

theorem allSteps_of_forall {P : ι → Prop} : ∀ (s : σ) {is : List ι}, (∀ i ∈ is, P i) →
    AllSteps step (fun _ i => P i) s is
  | _, [], _ => trivial
  | s, i :: _, h => ⟨h i List.mem_cons_self,
      allSteps_of_forall (step s i) fun j hj => h j (List.mem_cons_of_mem _ hj)⟩

theorem AllSteps.forall {P : ι → Prop} : ∀ {s : σ} {is : List ι},
    AllSteps step (fun _ i => P i) s is → ∀ i ∈ is, P i
  | _, [], _, _, hi => absurd hi List.not_mem_nil
  | _, _ :: _, h, j, hj => (List.mem_cons.mp hj).elim (fun hji => hji ▸ h.1) (h.2.forall j)

theorem AllSteps.and {ok' : σ → ι → Prop} : ∀ {s : σ} {is : List ι}, AllSteps step ok s is →
    AllSteps step ok' s is → AllSteps step (fun s i => ok s i ∧ ok' s i) s is
  | _, [], _, _ => trivial
  | _, _ :: _, h, h' => ⟨⟨h.1, h'.1⟩, h.2.and h'.2⟩

theorem AllSteps.imp {ok' : σ → ι → Prop} (himp : ∀ s i, ok s i → ok' s i) :
    ∀ {s : σ} {is : List ι}, AllSteps step ok s is → AllSteps step ok' s is
  | _, [], _ => trivial
  | s, i :: _, h => ⟨himp s i h.1, AllSteps.imp himp h.2⟩

theorem allSteps_congr {ok' : σ → ι → Prop} (h : ∀ s i, ok s i ↔ ok' s i) (s : σ) (is : List ι) :
    AllSteps step ok s is ↔ AllSteps step ok' s is :=
  ⟨AllSteps.imp fun s i => (h s i).mp, AllSteps.imp fun s i => (h s i).mpr⟩

/-- A machine that watches another one steps as that does. -/
theorem AllSteps.proj {σ' : Type*} {step' : σ' → ι → σ'} {ok' : σ' → ι → Prop} (π : σ → σ')
    (hπ : ∀ s i, π (step s i) = step' (π s) i) : ∀ (s : σ) (is : List ι),
    AllSteps step (fun s i => ok' (π s) i) s is → AllSteps step' ok' (π s) is
  | _, [], _ => trivial
  | s, i :: is, h => by
    have ih := AllSteps.proj π hπ (step s i) is h.2
    rw [hπ] at ih
    exact ⟨h.1, ih⟩

/-- Where the invariant makes the conditions of the two machines agree, and
steps that meet them keep it, the same runs meet them. -/
theorem allSteps_proj_iff {σ' : Type*} {step' : σ' → ι → σ'} {ok' : σ' → ι → Prop} {inv : σ → Prop}
    (π : σ → σ') (hπ : ∀ s i, π (step s i) = step' (π s) i)
    (hstep : ∀ s i, inv s → ok s i → inv (step s i)) (hok : ∀ s i, inv s → (ok s i ↔ ok' (π s) i)) :
    ∀ (s : σ) (is : List ι), inv s → (AllSteps step ok s is ↔ AllSteps step' ok' (π s) is)
  | _, [], _ => Iff.rfl
  | s, i :: is, h => by
    refine (and_congr_right fun hi => ?_).trans (and_congr_left fun _ => hok s i h)
    rw [← hπ]
    exact allSteps_proj_iff π hπ hstep hok (step s i) is (hstep s i h hi)

/-- What every step that meets `ok` keeps, a run of such steps keeps. -/
theorem inv_run {inv : σ → Prop} (hstep : ∀ s i, inv s → ok s i → inv (step s i)) :
    ∀ (s : σ) (is : List ι), inv s → AllSteps step ok s is → inv (run step s is)
  | _, [], h, _ => h
  | s, i :: is, h, hok => inv_run hstep (step s i) is (hstep s i h hok.1) hok.2

/-- A loop that counts from `k`: what each turn takes from `i` to `i + 1`, `n` turns
take from `k` to `k + n`. -/
theorem inv_count {step : σ → ℕ → σ} {inv : ℕ → σ → Prop} {k : ℕ} :
    ∀ {n : ℕ} {s : σ}, inv k s → (∀ i, k ≤ i → i < k + n → ∀ s, inv i s → inv (i + 1) (step s i)) →
    inv (k + n) ((List.range' k n).foldl step s)
  | 0, _, h, _ => h
  | n + 1, s, h, hstep => by
    have hfirst := hstep k (Nat.le_refl k) (by omega) s h
    have ih := @inv_count step inv (k + 1) n _ hfirst fun i hi hn => hstep i (by omega) (by omega)
    rw [List.range'_succ, List.foldl_cons, ← Nat.add_assoc, Nat.add_right_comm]
    exact ih

/-- Where an input touches what the machine has at the input's key, and that
alone, what it has at a key after a run comes from the inputs with that key. -/
theorem view_run {κ ν : Type*} [DecidableEq κ] {inv : σ → Prop} {P : ι → Prop} (key : ι → κ) (view : σ → κ → ν)
    (one : ν → ι → ν) (hinv : ∀ s i, inv s → P i → inv (step s i))
    (hview : ∀ s i k, inv s → P i → view (step s i) k = if key i = k then one (view s k) i else view s k)
    (k : κ) : ∀ (s : σ) (is : List ι), inv s → (∀ i ∈ is, P i) →
      view (run step s is) k = (is.filter fun i => key i = k).foldl one (view s k)
  | _, [], _, _ => rfl
  | s, i :: is, h, hP => by
    have hi := hP i List.mem_cons_self
    have ih := view_run key view one hinv hview k (step s i) is (hinv s i h hi)
      fun j hj => hP j (List.mem_cons_of_mem _ hj)
    rw [run_cons, ih, hview s i k h hi]
    by_cases hk : key i = k
    · rw [if_pos hk, List.filter_cons_of_pos (by simpa using hk), List.foldl_cons]
    · rw [if_neg hk, List.filter_cons_of_neg (by simpa using hk)]

/-- A condition that follows at every step from the invariant and a weaker
one holds at every step. -/
theorem allSteps_of_inv {inv : σ → Prop} {ok' : σ → ι → Prop}
    (hstep : ∀ s i, inv s → ok s i → inv (step s i) ∧ ok' s i) :
    ∀ (s : σ) (is : List ι), inv s → AllSteps step ok s is → AllSteps step ok' s is
  | _, [], _, _ => trivial
  | s, i :: is, h, hok =>
    ⟨(hstep s i h hok.1).2, allSteps_of_inv hstep (step s i) is (hstep s i h hok.1).1 hok.2⟩

/-- Where, under an invariant, `Q` survives exactly the steps that meet `ok`, it
holds in every state of exactly the runs all of whose steps do. -/
theorem forall_take_iff {inv Q : σ → Prop} (hinv : ∀ s i, inv s → inv (step s i))
    (hstep : ∀ s i, inv s → Q s → (Q (step s i) ↔ ok s i)) (s : σ) (is : List ι) (hs : inv s) (hq : Q s) :
    (∀ k, Q (run step s (is.take k))) ↔ AllSteps step ok s is := by
  induction is generalizing s with
  | nil =>
    simp only [List.take_nil, run_nil, AllSteps, iff_true]
    exact fun _ => hq
  | cons i is ih =>
    constructor
    · intro h
      have hfirst : Q (step s i) := by simpa using h 1
      refine ⟨(hstep s i hs hq).mp hfirst, (ih (step s i) (hinv s i hs) hfirst).mp fun k => ?_⟩
      simpa using h (k + 1)
    · rintro ⟨hi, hrest⟩ k
      cases k with
      | zero => exact hq
      | succ k =>
        simp only [List.take_succ_cons, run_cons]
        exact (ih (step s i) (hinv s i hs) ((hstep s i hs hq).mpr hi)).mpr hrest k

section

variable {β γ : Type*}

variable (step) in
/-- What the steps of the run from `s` give out, in order. -/
def outputs (out : σ → ι → Option β) : σ → List ι → List β
  | _, [] => []
  | s, i :: is => (out s i).toList ++ outputs out (step s i) is

variable {out : σ → ι → Option β}

theorem outputs_append : ∀ (s : σ) (is js : List ι),
    outputs step out s (is ++ js) = outputs step out s is ++ outputs step out (run step s is) js
  | _, [], _ => rfl
  | s, i :: is, js => by
    rw [List.cons_append, outputs, outputs_append (step s i) is js, outputs, List.append_assoc]
    rfl

theorem outputs_map (f : β → γ) : ∀ (s : σ) (is : List ι),
    outputs step (fun s i => (out s i).map f) s is = (outputs step out s is).map f
  | _, [] => rfl
  | s, i :: is => by
    have ih := outputs_map f (step s i) is
    rw [outputs, outputs, ih, List.map_append, Option.toList_map]

/-- What a step that meets `ok` gives out from a state with the invariant, the
run gives out. -/
theorem forall_outputs {inv : σ → Prop} {Q : β → Prop}
    (hstep : ∀ s i, inv s → ok s i → inv (step s i))
    (hout : ∀ s i, inv s → ok s i → ∀ b ∈ out s i, Q b) :
    ∀ (s : σ) (is : List ι), inv s → AllSteps step ok s is → ∀ b ∈ outputs step out s is, Q b
  | _, [], _, _, _, hb => by cases hb
  | s, i :: is, h, hok, b, hb => by
    rcases List.mem_append.mp hb with hb | hb
    · exact hout s i h hok.1 b (Option.mem_toList.mp hb)
    · exact forall_outputs hstep hout (step s i) is (hstep s i h hok.1) hok.2 b hb

/-- Two machines that give out the same at every step. -/
theorem outputs_congr {out' : σ → ι → Option β} : ∀ {s : σ} {is : List ι},
    AllSteps step (fun s i => out s i = out' s i) s is →
    outputs step out s is = outputs step out' s is
  | _, [], _ => rfl
  | s, i :: is, h => by
    rw [outputs, outputs, h.1, outputs_congr h.2]

theorem length_outputs_le : ∀ (s : σ) (is : List ι), (outputs step out s is).length ≤ is.length
  | _, [] => Nat.le_refl _
  | s, i :: is => by
    have ih := length_outputs_le (step s i) is
    have hone : (out s i).toList.length ≤ 1 := by cases out s i <;> simp
    rw [outputs, List.length_append, List.length_cons]
    omega

/-- Where, under an invariant, the inputs `p` are those for which a step gives
something out, the run gives out as much as there are of them. -/
theorem length_outputs {inv : σ → Prop} {p : ι → Bool} (hinv : ∀ s i, inv s → inv (step s i))
    (hout : ∀ s i, inv s → (out s i).isSome = p i) :
    ∀ (s : σ) (is : List ι), inv s → (outputs step out s is).length = is.countP p
  | _, [], _ => rfl
  | s, i :: is, h => by
    have ih := length_outputs hinv hout (step s i) is (hinv s i h)
    rw [outputs, List.length_append, ih, List.countP_cons, ← hout s i h, Nat.add_comm]
    cases out s i <;> rfl

/-- What a step says of the state it leaves and of what it gives out, and what the
steps that give nothing out keep, holds of the last output at the end of a run. -/
theorem getLast_outputs {inv : σ → β → Prop} (hout : ∀ s i b, out s i = some b → inv (step s i) b)
    (hkeep : ∀ s i b, out s i = none → inv s b → inv (step s i) b) (s : σ) (is : List ι) {b : β}
    (h : (outputs step out s is).getLast? = some b) : inv (run step s is) b := by
  induction is using List.reverseRecOn with
  | nil => cases h
  | append_singleton is i ih =>
    rw [outputs_append] at h
    rw [run_append]
    cases hi : out (run step s is) i with
    | none =>
      simp only [outputs, hi, Option.toList_none, List.append_nil] at h
      exact hkeep _ _ _ hi (ih h)
    | some b' =>
      simp only [outputs, hi, Option.toList_some, List.append_nil, List.getLast?_append_cons] at h
      cases h
      exact hout _ _ _ hi

end

end Run
