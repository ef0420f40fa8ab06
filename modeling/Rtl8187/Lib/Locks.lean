/-
# Calls and the locks they take

A call is given by its result, the state it leaves, and what it does to the locks
on its way, in order. Locks are not recursive: who acquires one that he holds
waits for himself. `Disciplined` says that this does not happen and that every
acquisition has its release.

`Runs` and `Hangs` are taken apart along the call, from whether it holds the
lock before to whether it holds it after.

Key definitions: `LockOp`, `Disciplined`, `Call`, `Call.Runs`, `Call.Hangs`.
Key theorems: `disciplined_iff`, `Call.Runs.bind`, `Call.Runs.disciplined`,
`Call.Hangs.not_disciplined`.
-/
import Mathlib.Data.List.Basic
import Mathlib.Data.List.Count
import Mathlib.Data.Int.Notation
import Mathlib.Tactic.SplitIfs

namespace Locks

/-- What a call does to a lock. -/
inductive LockOp (ι : Type) where
  | acquire (l : ι)
  | release (l : ι)
  deriving DecidableEq

variable {ι σ τ α β : Type} [DecidableEq ι]

/-- How often the lock was acquired more than released. -/
def holds (l : ι) (ops : List (LockOp ι)) : ℤ :=
  (ops.count (.acquire l) : ℤ) - (ops.count (.release l) : ℤ)

/-- The lock is acquired only while it is not held, released only while it is, and
in the end it is released as often as it was acquired. -/
structure Disciplined (l : ι) (ops : List (LockOp ι)) : Prop where
  acquire : ∀ k, ops[k]? = some (.acquire l) → holds l (ops.take k) = 0
  release : ∀ k, ops[k]? = some (.release l) → holds l (ops.take k) = 1
  balanced : holds l ops = 0

/-- Whether the lock is held after these operations, if it is held before them;
none if it is acquired while held, or released while not. -/
def heldAfter (l : ι) : Bool → List (LockOp ι) → Option Bool
  | held, [] => some held
  | held, .acquire l' :: ops =>
    if l' ≠ l then heldAfter l held ops else if held then none else heldAfter l true ops
  | held, .release l' :: ops =>
    if l' ≠ l then heldAfter l held ops else if held then heldAfter l false ops else none

theorem heldAfter_append (l : ι) : ∀ (held : Bool) (ops ops' : List (LockOp ι)),
    heldAfter l held (ops ++ ops') = (heldAfter l held ops).bind fun held => heldAfter l held ops'
  | _, [], _ => rfl
  | held, .acquire l' :: ops, ops' => by
    simp only [List.cons_append, heldAfter]
    split_ifs
    · exact heldAfter_append l held ops ops'
    · rfl
    · exact heldAfter_append l true ops ops'
  | held, .release l' :: ops, ops' => by
    simp only [List.cons_append, heldAfter]
    split_ifs
    · exact heldAfter_append l held ops ops'
    · exact heldAfter_append l false ops ops'
    · rfl

/-- The lock is held once, or not. -/
def heldCount (held : Bool) : ℤ := if held then 1 else 0

/-- `Disciplined`, for a lock that is held before or not, and is held after or not. -/
structure DisciplinedFrom (l : ι) (held : Bool) (ops : List (LockOp ι)) (held' : Bool) : Prop where
  acquire : ∀ k, ops[k]? = some (.acquire l) → heldCount held + holds l (ops.take k) = 0
  release : ∀ k, ops[k]? = some (.release l) → heldCount held + holds l (ops.take k) = 1
  balanced : heldCount held + holds l ops = heldCount held'

/-- What an operation changes about the lock. -/
def LockOp.change (l : ι) (op : LockOp ι) : ℤ :=
  if op = .acquire l then 1 else if op = .release l then -1 else 0

theorem holds_cons (l : ι) (op : LockOp ι) (ops : List (LockOp ι)) :
    holds l (op :: ops) = op.change l + holds l ops := by
  unfold holds LockOp.change
  rw [List.count_cons, List.count_cons]
  by_cases ha : op = .acquire l
  · subst ha
    simp
    omega
  · by_cases hr : op = .release l
    · subst hr
      simp
      omega
    · simp [ha, hr]

/-- The first operation, and the rest. -/
theorem disciplinedFrom_cons (l : ι) (held held₁ held' : Bool) (op : LockOp ι) (ops : List (LockOp ι))
    (hstep : heldCount held + op.change l = heldCount held₁) :
    DisciplinedFrom l held (op :: ops) held' ↔
      ((op = .acquire l → held = false) ∧ (op = .release l → held = true)) ∧
        DisciplinedFrom l held₁ ops held' := by
  have hrest : ∀ ops' : List (LockOp ι),
      heldCount held + holds l (op :: ops') = heldCount held₁ + holds l ops' := by
    intro ops'
    rw [holds_cons, ← hstep]
    omega
  have hzero : ∀ n : ℤ, heldCount held + holds l ([] : List (LockOp ι)) = n ↔ heldCount held = n := by
    intro n
    simp [holds]
  constructor
  · intro h
    refine ⟨⟨fun ha => ?_, fun hr => ?_⟩, ⟨fun k hk => ?_, fun k hk => ?_, ?_⟩⟩
    · have h0 := (hzero 0).mp (h.acquire 0 (by simp [ha]))
      cases held
      · rfl
      · cases h0
    · have h1 := (hzero 1).mp (h.release 0 (by simp [hr]))
      cases held
      · cases h1
      · rfl
    · have hk' := h.acquire (k + 1) (by simpa using hk)
      rwa [List.take_succ_cons, hrest] at hk'
    · have hk' := h.release (k + 1) (by simpa using hk)
      rwa [List.take_succ_cons, hrest] at hk'
    · rw [← hrest]
      exact h.balanced
  · rintro ⟨⟨ha, hr⟩, h⟩
    refine ⟨fun k hk => ?_, fun k hk => ?_, ?_⟩
    · cases k with
      | zero =>
        rw [List.take_zero, hzero, ha (by simpa using hk)]
        rfl
      | succ k =>
        rw [List.take_succ_cons, hrest]
        exact h.acquire k (by simpa using hk)
    · cases k with
      | zero =>
        rw [List.take_zero, hzero, hr (by simpa using hk)]
        rfl
      | succ k =>
        rw [List.take_succ_cons, hrest]
        exact h.release k (by simpa using hk)
    · rw [hrest]
      exact h.balanced

theorem disciplinedFrom_iff (l : ι) : ∀ (held : Bool) (ops : List (LockOp ι)) (held' : Bool),
    DisciplinedFrom l held ops held' ↔ heldAfter l held ops = some held'
  | held, [], held' => by
    constructor
    · intro h
      have hb := h.balanced
      cases held <;> cases held' <;> simp [heldCount, holds, heldAfter] at hb ⊢
    · intro h
      cases h
      exact ⟨fun k hk => by simp at hk, fun k hk => by simp at hk, by simp [holds]⟩
  | held, op :: ops, held' => by
    by_cases ha : op = .acquire l
    · subst ha
      cases held with
      | true =>
        refine iff_of_false (fun h => ?_) (by simp [heldAfter])
        have h0 := h.acquire 0 rfl
        cases h0
      | false =>
        rw [disciplinedFrom_cons l false true held' _ ops (by simp [heldCount, LockOp.change]),
          disciplinedFrom_iff l true ops held']
        simp [heldAfter]
    · by_cases hr : op = .release l
      · subst hr
        cases held with
        | true =>
          rw [disciplinedFrom_cons l true false held' _ ops (by simp [heldCount, LockOp.change]),
            disciplinedFrom_iff l false ops held']
          simp [heldAfter]
        | false =>
          refine iff_of_false (fun h => ?_) (by simp [heldAfter])
          have h1 := h.release 0 rfl
          cases h1
      · rw [disciplinedFrom_cons l held held held' _ ops (by simp [LockOp.change, ha, hr]),
          disciplinedFrom_iff l held ops held']
        cases op with
        | acquire l' =>
          have hne : l' ≠ l := fun h => ha (by rw [h])
          simp [heldAfter, hne]
        | release l' =>
          have hne : l' ≠ l := fun h => hr (by rw [h])
          simp [heldAfter, hne]

/-- **The discipline, operation by operation.** -/
theorem disciplined_iff (l : ι) (ops : List (LockOp ι)) :
    Disciplined l ops ↔ heldAfter l false ops = some false := by
  rw [← disciplinedFrom_iff]
  constructor
  · intro h
    refine ⟨fun k hk => ?_, fun k hk => ?_, ?_⟩
    · simpa [heldCount] using h.acquire k hk
    · simpa [heldCount] using h.release k hk
    · simpa [heldCount] using h.balanced
  · intro h
    refine ⟨fun k hk => ?_, fun k hk => ?_, ?_⟩
    · simpa [heldCount] using h.acquire k hk
    · simpa [heldCount] using h.release k hk
    · simpa [heldCount] using h.balanced

instance (l : ι) (ops : List (LockOp ι)) : Decidable (Disciplined l ops) :=
  decidable_of_iff _ (disciplined_iff l ops).symm

/-! ### Calls -/

/-- A call. One that acquires a lock it holds never comes further than that; the
rest of its operations, its result and its final state are those it would have had. -/
structure Call (ι σ α : Type) where
  result : σ → α
  final : σ → σ
  ops : σ → List (LockOp ι)

namespace Call

instance : Monad (Call ι σ) where
  pure a := ⟨fun _ => a, id, fun _ => []⟩
  bind x f :=
    ⟨fun s => (f (x.result s)).result (x.final s), fun s => (f (x.result s)).final (x.final s),
      fun s => x.ops s ++ (f (x.result s)).ops (x.final s)⟩

/-- `spin_lock_irqsave` -/
def acquire (l : ι) : Call ι σ Unit := ⟨fun _ => (), id, fun _ => [.acquire l]⟩

/-- `spin_unlock_irqrestore` -/
def release (l : ι) : Call ι σ Unit := ⟨fun _ => (), id, fun _ => [.release l]⟩

/-- A change of the state by code that has nothing to do with locks. -/
def act (f : σ → σ) : Call ι σ Unit := ⟨fun _ => (), f, fun _ => []⟩

/-- A result and a change of the state by such code. -/
def compute (f : σ → α × σ) : Call ι σ α := ⟨fun s => (f s).1, fun s => (f s).2, fun _ => []⟩

/-- The state is read. -/
def read : Call ι σ σ := ⟨id, id, fun _ => []⟩

/-- A call that is made under a condition. -/
def onlyIf (c : Prop) [Decidable c] (p : Call ι σ Unit) : Call ι σ Unit := if c then p else pure ()

/-- A call with the lock held. -/
def locked (l : ι) (p : Call ι σ Unit) : Call ι σ Unit := do
  acquire l
  p
  release l

/-- A call over a part of the state. -/
def zoom (get : σ → τ) (put : σ → τ → σ) (p : Call ι τ α) : Call ι σ α :=
  ⟨fun s => p.result (get s), fun s => put s (p.final (get s)), fun s => p.ops (get s)⟩

/-! The state a call leaves. -/

section

omit [DecidableEq ι]

variable (s : σ) (x : Call ι σ α) (f : α → Call ι σ β) (p : Call ι σ Unit) (l : ι) (c : Prop) [Decidable c]

@[simp] theorem final_bind : (x >>= f).final s = (f (x.result s)).final (x.final s) := rfl

@[simp] theorem final_act (g : σ → σ) : (act g : Call ι σ Unit).final s = g s := rfl

@[simp] theorem final_read : (read : Call ι σ σ).final s = s := rfl

@[simp] theorem result_read : (read : Call ι σ σ).result s = s := rfl

@[simp] theorem final_onlyIf : (onlyIf c p).final s = if c then p.final s else s :=
  apply_ite (fun p : Call ι σ Unit => p.final s) c p (pure ())

@[simp] theorem final_locked : (locked l p).final s = p.final s := rfl

end

/-- From `s`, holding the lock or not, the call gives `a`, leaves `s'` and holds the
lock or not; it never acquires it while it holds it, nor releases it while not. -/
structure Runs (l : ι) (p : Call ι σ α) (s : σ) (held : Bool) (a : α) (s' : σ) (held' : Bool) : Prop where
  result : p.result s = a
  final : p.final s = s'
  ops : heldAfter l held (p.ops s) = some held'

/-- From `s`, the call acquires the lock while it holds it, or releases it while not. -/
def Hangs (l : ι) (p : Call ι σ α) (s : σ) (held : Bool) : Prop := heldAfter l held (p.ops s) = none

/-- From any state, the call takes a lock that is held (or not) to one that is held (or not). -/
def Moves (l : ι) (held : Bool) (p : Call ι σ α) (held' : Bool) : Prop :=
  ∀ s, heldAfter l held (p.ops s) = some held'

/-- The call leaves the lock as it finds it, held or not. -/
def Quiet (l : ι) (p : Call ι σ α) : Prop := ∀ held, Moves l held p held

/-- The call has nothing to do with the lock, and changes the state by `f`. -/
def Passes (l : ι) (p : Call ι σ Unit) (f : σ → σ) : Prop :=
  ∀ s held, Runs l p s held () (f s) held

/-- The call keeps the discipline, and changes the state by `f`. -/
def Keeps (l : ι) (p : Call ι σ Unit) (f : σ → σ) : Prop := ∀ s, Runs l p s false () (f s) false

/-- The call keeps the discipline, and comes to `f`. -/
def Gives (l : ι) (p : Call ι σ α) (f : σ → α × σ) : Prop := ∀ s, Runs l p s false (f s).1 (f s).2 false

variable {l l' : ι} {s s₁ s₂ : σ} {held held₁ held₂ : Bool} {a : α} {b : β}

namespace Runs

theorem bind {x : Call ι σ α} {f : α → Call ι σ β} (h : Runs l x s held a s₁ held₁)
    (h' : Runs l (f a) s₁ held₁ b s₂ held₂) : Runs l (x >>= f) s held b s₂ held₂ where
  result := by
    show (f (x.result s)).result (x.final s) = b
    rw [h.result, h.final]
    exact h'.result
  final := by
    show (f (x.result s)).final (x.final s) = s₂
    rw [h.result, h.final]
    exact h'.final
  ops := by
    show heldAfter l held (x.ops s ++ (f (x.result s)).ops (x.final s)) = some held₂
    rw [heldAfter_append, h.ops, h.result, h.final]
    exact h'.ops

theorem pure (a : α) : Runs l (Pure.pure a : Call ι σ α) s held a s held := ⟨rfl, rfl, rfl⟩

theorem act (f : σ → σ) : Runs l (act f : Call ι σ Unit) s held () (f s) held := ⟨rfl, rfl, rfl⟩

theorem compute (f : σ → α × σ) : Runs l (compute f : Call ι σ α) s held (f s).1 (f s).2 held := ⟨rfl, rfl, rfl⟩

theorem read : Runs l (read : Call ι σ σ) s held s s held := ⟨rfl, rfl, rfl⟩

theorem acquire : Runs l (acquire l : Call ι σ Unit) s false () s true :=
  ⟨rfl, rfl, by simp [Call.acquire, heldAfter]⟩

theorem release : Runs l (release l : Call ι σ Unit) s true () s false :=
  ⟨rfl, rfl, by simp [Call.release, heldAfter]⟩

/-- Another lock. -/
theorem acquire_of_ne (h : l' ≠ l) : Runs l (Call.acquire l' : Call ι σ Unit) s held () s held :=
  ⟨rfl, rfl, by simp [Call.acquire, heldAfter, h]⟩

theorem release_of_ne (h : l' ≠ l) : Runs l (Call.release l' : Call ι σ Unit) s held () s held :=
  ⟨rfl, rfl, by simp [Call.release, heldAfter, h]⟩

theorem ite {c : Prop} [Decidable c] {p q : Call ι σ α} (hp : c → Runs l p s held a s₁ held₁)
    (hq : ¬ c → Runs l q s held a s₂ held₁) :
    Runs l (if c then p else q) s held a (if c then s₁ else s₂) held₁ := by
  split_ifs with hc
  · exact hp hc
  · exact hq hc

theorem iteGives {c : Prop} [Decidable c] {p q : Call ι σ α} {r r' : α × σ}
    (hp : c → Runs l p s held r.1 r.2 held₁) (hq : ¬ c → Runs l q s held r'.1 r'.2 held₁) :
    Runs l (if c then p else q) s held (if c then r else r').1 (if c then r else r').2 held₁ := by
  split_ifs with hc
  · exact hp hc
  · exact hq hc

theorem onlyIf {c : Prop} [Decidable c] {p : Call ι σ Unit} (h : c → Runs l p s held () s₁ held) :
    Runs l (onlyIf c p) s held () (if c then s₁ else s) held := .ite h fun _ => .pure ()

theorem locked {p : Call ι σ Unit} (h : Runs l p s true () s₁ true) :
    Runs l (Call.locked l p) s false () s₁ false :=
  .bind acquire (.bind h release)

theorem locked_of_ne {p : Call ι σ Unit} (hne : l' ≠ l) (h : Runs l p s held () s₁ held₁) :
    Runs l (Call.locked l' p) s held () s₁ held₁ :=
  .bind (acquire_of_ne hne) (.bind h (release_of_ne hne))

theorem zoom {get : σ → τ} {put : σ → τ → σ} {p : Call ι τ α} {t : τ}
    (h : Runs l p (get s) held a t held₁) : Runs l (p.zoom get put) s held a (put s t) held₁ where
  result := h.result
  final := by
    show put s (p.final (get s)) = put s t
    rw [h.final]
  ops := h.ops

/-- A call that starts and ends without the lock. -/
theorem disciplined {p : Call ι σ α} (h : Runs l p s false a s₁ false) : Disciplined l (p.ops s) :=
  (disciplined_iff l _).mpr h.ops

end Runs

namespace Moves

theorem runs {p : Call ι σ α} (h : Moves l held p held₁) (s : σ) :
    Runs l p s held (p.result s) (p.final s) held₁ := ⟨rfl, rfl, h s⟩

theorem disciplined {p : Call ι σ α} (h : Moves l false p false) (s : σ) : Disciplined l (p.ops s) :=
  (h.runs s).disciplined

theorem pure (a : α) : Moves l held (Pure.pure a : Call ι σ α) held := fun _ => rfl

theorem acquire : Moves l false (acquire l : Call ι σ Unit) true := fun _ => Runs.acquire.ops

theorem release : Moves l true (release l : Call ι σ Unit) false := fun _ => Runs.release.ops

theorem bind {x : Call ι σ α} {f : α → Call ι σ β} (h : Moves l held x held₁)
    (h' : ∀ a, Moves l held₁ (f a) held₂) : Moves l held (x >>= f) held₂ :=
  fun s => (Runs.bind (h.runs s) ((h' _).runs _)).ops

/-- The state is read. -/
theorem read {f : σ → Call ι σ α} (h : ∀ s, Moves l held (f s) held₁) : Moves l held (read >>= f) held₁ :=
  bind (fun _ => rfl) h

theorem ite {c : Prop} [Decidable c] {p q : Call ι σ α} (hp : Moves l held p held₁) (hq : Moves l held q held₁) :
    Moves l held (if c then p else q) held₁ := by
  split_ifs
  · exact hp
  · exact hq

end Moves

namespace Quiet

theorem runs {p : Call ι σ α} (h : Quiet l p) (s : σ) (held : Bool) :
    Runs l p s held (p.result s) (p.final s) held := (h held).runs s

theorem pure (a : α) : Quiet l (Pure.pure a : Call ι σ α) := fun _ => .pure a

theorem act (f : σ → σ) : Quiet l (act f : Call ι σ Unit) := fun _ _ => rfl

theorem bind {x : Call ι σ α} {f : α → Call ι σ β} (h : Quiet l x) (h' : ∀ a, Quiet l (f a)) :
    Quiet l (x >>= f) := fun held => (h held).bind fun a => h' a held

theorem read {f : σ → Call ι σ α} (h : ∀ s, Quiet l (f s)) : Quiet l (read >>= f) :=
  fun held => .read fun s => h s held

theorem ite {c : Prop} [Decidable c] {p q : Call ι σ α} (hp : Quiet l p) (hq : Quiet l q) :
    Quiet l (if c then p else q) := fun held => (hp held).ite (hq held)

theorem onlyIf {c : Prop} [Decidable c] {p : Call ι σ Unit} (h : Quiet l p) : Quiet l (onlyIf c p) :=
  ite h (pure ())

theorem locked_of_ne {p : Call ι σ Unit} (hne : l' ≠ l) (h : Quiet l p) : Quiet l (locked l' p) :=
  fun held s => (Runs.locked_of_ne hne (h.runs s held)).ops

theorem zoom {get : σ → τ} {put : σ → τ → σ} {p : Call ι τ α} (h : Quiet l p) : Quiet l (p.zoom get put) :=
  fun held s => h held (get s)

/-- With the lock around it. -/
theorem locked {p : Call ι σ Unit} (h : Quiet l p) (s : σ) :
    Runs l (locked l p) s false () (p.final s) false := .locked (h.runs s true)

end Quiet

theorem Passes.keeps {p : Call ι σ Unit} {f : σ → σ} (h : Passes l p f) : Keeps l p f := fun s => h s false

theorem passes_act (f : σ → σ) : Passes l (act f : Call ι σ Unit) f := fun _ _ => .act f

theorem Passes.locked {p : Call ι σ Unit} {f : σ → σ} (h : Passes l p f) : Keeps l (locked l p) f :=
  fun s => .locked (h s true)

theorem Keeps.zoom {get : σ → τ} {put : σ → τ → σ} {p : Call ι τ Unit} {f : τ → τ} (h : Keeps l p f) :
    Keeps l (p.zoom get put) fun s => put s (f (get s)) := fun s => .zoom (h (get s))

namespace Hangs

theorem bind_left {x : Call ι σ α} (f : α → Call ι σ β) (h : Hangs l x s held) : Hangs l (x >>= f) s held := by
  show heldAfter l held (x.ops s ++ (f (x.result s)).ops (x.final s)) = none
  rw [heldAfter_append, h]
  rfl

theorem bind_right {x : Call ι σ α} {f : α → Call ι σ β} (h : Runs l x s held a s₁ held₁)
    (h' : Hangs l (f a) s₁ held₁) : Hangs l (x >>= f) s held := by
  show heldAfter l held (x.ops s ++ (f (x.result s)).ops (x.final s)) = none
  rw [heldAfter_append, h.ops, h.result, h.final]
  exact h'

theorem acquire : Hangs l (acquire l : Call ι σ Unit) s true := by simp [Hangs, Call.acquire, heldAfter]

theorem not_disciplined {p : Call ι σ α} (h : Hangs l p s false) : ¬ Disciplined l (p.ops s) := by
  intro hd
  have hops := (disciplined_iff l _).mp hd
  rw [h] at hops
  cases hops

end Hangs

end Call

end Locks
