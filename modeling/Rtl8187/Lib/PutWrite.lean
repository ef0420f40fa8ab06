/-
# A buffer that is put and written

Room of a fixed size is allocated. `put` claims the next elements of it, `write`
overwrites elements that are claimed. A program of such steps fits if it claims no
more than there is and writes nowhere else (`Fits`). `tags` writes pieces one
behind the other, as a pointer does that moves on behind each.

Key definitions: `Op`, `frame`, `total`, `InRoom`, `Build`, `tags`.
Key theorems: `foldl_put_tags`, `foldl_append_left`, `inRoom_append`, `inRoom_tags`.
-/
import Mathlib.Data.List.Basic
import Mathlib.Algebra.Order.Ring.Nat

namespace PutWrite

variable {α : Type*}

/-- A step: `n` more elements are claimed, or `bs` is written from `off` on. -/
inductive Op (α : Type*) where
  | put (n : ℕ)
  | write (off : ℕ) (bs : List α)

/-- The elements claimed, after a step. New ones are `z`. -/
def Op.apply (z : α) (data : List α) : Op α → List α
  | .put n => data ++ List.replicate n z
  | .write off bs => data.take off ++ bs ++ data.drop (off + bs.length)

/-- What a program leaves. -/
def frame (z : α) (ops : List (Op α)) : List α := ops.foldl (Op.apply z) []

/-- How much a step claims. -/
def Op.claims : Op α → ℕ
  | .put n => n
  | .write _ _ => 0

def total (ops : List (Op α)) : ℕ := (ops.map Op.claims).sum

/-- Where a write ends. -/
def Op.ends : Op α → ℕ
  | .put _ => 0
  | .write off bs => off + bs.length

/-- The end of the write that goes farthest. -/
def reach (ops : List (Op α)) : ℕ := (ops.map Op.ends).foldr max 0

/-- With `n` elements claimed, every write of the program goes to claimed ones. -/
def InRoom : ℕ → List (Op α) → Prop
  | _, [] => True
  | n, op :: ops => op.ends ≤ n ∧ InRoom (n + op.claims) ops

instance decidableInRoom : ∀ (n : ℕ) (ops : List (Op α)), Decidable (InRoom n ops)
  | _, [] => .isTrue trivial
  | n, op :: ops =>
    have := decidableInRoom (n + op.claims) ops
    inferInstanceAs (Decidable (_ ∧ _))

/-- A program, with the size of its buffer. -/
structure Build (α : Type*) where
  room : ℕ
  ops : List (Op α)

/-- It claims no more than there is, and writes to nothing else. -/
def Build.Fits (b : Build α) : Prop := total b.ops ≤ b.room ∧ InRoom 0 b.ops

instance (b : Build α) : Decidable b.Fits := inferInstanceAs (Decidable (_ ∧ _))

/-- The pieces, one behind the other from `off` on. -/
def tags : ℕ → List (List α) → List (Op α)
  | _, [] => []
  | off, bs :: rest => .write off bs :: tags (off + bs.length) rest

section

variable {n off : ℕ} {ops ops' : List (Op α)}

/-! ### What is claimed -/

@[simp] theorem total_append : total (ops ++ ops') = total ops + total ops' := by
  unfold total
  rw [List.map_append, List.sum_append]

@[simp] theorem total_tags : ∀ (off : ℕ) (pieces : List (List α)), total (tags off pieces) = 0
  | _, [] => rfl
  | off, bs :: rest => by
    rw [tags]
    exact (Nat.zero_add _).trans (total_tags (off + bs.length) rest)

@[simp] theorem total_put (n : ℕ) (ops : List (Op α)) : total (.put n :: ops) = n + total ops := List.sum_cons

@[simp] theorem total_write (off : ℕ) (bs : List α) (ops : List (Op α)) :
    total (.write off bs :: ops) = total ops := (Nat.zero_add _)

@[simp] theorem total_nil : total ([] : List (Op α)) = 0 := rfl

theorem inRoom_append : ∀ {n : ℕ} {ops : List (Op α)},
    InRoom n (ops ++ ops') ↔ InRoom n ops ∧ InRoom (n + total ops) ops'
  | _, [] => by simp [InRoom, total]
  | n, op :: ops => by
    have ih := @inRoom_append (n + op.claims) ops
    have htotal : n + total (op :: ops) = n + op.claims + total ops := by
      simp [total, Nat.add_assoc]
    rw [htotal, List.cons_append, InRoom, InRoom, ih, and_assoc]

/-- Pieces stay inside if the last one does. -/
theorem inRoom_tags : ∀ {n off : ℕ} {pieces : List (List α)}, off + pieces.flatten.length ≤ n →
    InRoom n (tags off pieces)
  | _, _, [], _ => trivial
  | n, off, bs :: rest, h => by
    rw [List.flatten_cons, List.length_append] at h
    exact ⟨le_trans (Nat.add_le_add_left (Nat.le_add_right _ _) off) h,
      inRoom_tags (by rw [Nat.add_assoc]; exact h)⟩

/-- Pieces that fit what is put for them. -/
theorem inRoom_put_tags {m n off : ℕ} {pieces : List (List α)} (h : off + pieces.flatten.length ≤ m + n) :
    InRoom m (.put n :: tags off pieces) := ⟨Nat.zero_le _, inRoom_tags h⟩

theorem reach_append : reach (ops ++ ops') = max (reach ops) (reach ops') := by
  unfold reach
  induction ops with
  | nil => simp
  | cons op ops ih => simp only [List.cons_append, List.map_cons, List.foldr_cons, ih, max_assoc]

/-- The last of the pieces ends where all of them do. -/
theorem reach_tags : ∀ (off : ℕ) {pieces : List (List α)}, pieces ≠ [] →
    reach (tags off pieces) = off + pieces.flatten.length
  | _, [], h => absurd rfl h
  | off, [bs], _ => by simp [tags, reach, Op.ends]
  | off, bs :: bs' :: rest, _ => by
    have ih := reach_tags (off + bs.length) (List.cons_ne_nil bs' rest)
    have hcons : reach (tags off (bs :: bs' :: rest)) =
        max (off + bs.length) (reach (tags (off + bs.length) (bs' :: rest))) := rfl
    have hflat : (bs :: bs' :: rest).flatten.length = bs.length + (bs' :: rest).flatten.length :=
      List.length_append
    rw [hcons, ih, hflat, ← Nat.add_assoc]
    exact max_eq_right (Nat.le_add_right _ _)

/-! ### What is left -/

variable {z : α}

theorem apply_put (data : List α) (n : ℕ) : Op.apply z data (.put n) = data ++ List.replicate n z := rfl

theorem apply_write (data : List α) (off : ℕ) (bs : List α) :
    Op.apply z data (.write off bs) = data.take off ++ bs ++ data.drop (off + bs.length) := rfl

/-- A write to the front leaves the rest. -/
theorem apply_append_left {a b : List α} {op : Op α} (hc : op.claims = 0) (h : op.ends ≤ a.length) :
    op.apply z (a ++ b) = op.apply z a ++ b ∧ (op.apply z a).length = a.length := by
  cases op with
  | put n =>
    have hn : n = 0 := hc
    subst hn
    simp [apply_put]
  | write off bs =>
    have hend : off + bs.length ≤ a.length := h
    have hoff : off ≤ a.length := le_trans (Nat.le_add_right _ _) hend
    refine ⟨?_, ?_⟩
    · rw [apply_write, apply_write, List.take_append_of_le_length hoff, List.drop_append_of_le_length hend,
        List.append_assoc _ _ b]
    · rw [apply_write]
      simp only [List.length_append, List.length_take, List.length_drop]
      omega

/-- So do several. -/
theorem foldl_append_left {b : List α} : ∀ {ops : List (Op α)} {a : List α}, (∀ op ∈ ops, op.claims = 0) →
    InRoom a.length ops → ops.foldl (Op.apply z) (a ++ b) = ops.foldl (Op.apply z) a ++ b
  | [], _, _, _ => rfl
  | op :: ops, a, hc, h => by
    have hop := hc op List.mem_cons_self
    obtain ⟨happ, hlen⟩ := @apply_append_left α z a b op hop h.1
    have hrest : InRoom (op.apply z a).length ops := by
      have h2 := h.2
      rwa [hop, Nat.add_zero, ← hlen] at h2
    rw [List.foldl_cons, List.foldl_cons, happ,
      foldl_append_left (fun op hop => hc op (List.mem_cons_of_mem _ hop)) hrest]

/-- Pieces fill new room from its start. -/
theorem foldl_tags : ∀ (pieces : List (List α)) (data : List α) (n : ℕ), pieces.flatten.length ≤ n →
    (tags data.length pieces).foldl (Op.apply z) (data ++ List.replicate n z) =
      data ++ pieces.flatten ++ List.replicate (n - pieces.flatten.length) z
  | [], data, n, _ => by simp [tags]
  | bs :: rest, data, n, h => by
    rw [List.flatten_cons, List.length_append] at h
    have hwrite : Op.apply z (data ++ List.replicate n z) (.write data.length bs) =
        data ++ bs ++ List.replicate (n - bs.length) z := by
      rw [apply_write, List.take_left, List.drop_append, List.drop_eq_nil_of_le (Nat.le_add_right _ _),
        Nat.add_sub_cancel_left, List.drop_replicate, List.nil_append]
    have ih := foldl_tags rest (data ++ bs) (n - bs.length) (by omega)
    rw [tags, List.foldl_cons, hwrite, ← List.length_append, ih, List.flatten_cons, List.length_append,
      ← Nat.sub_sub, List.append_assoc data bs]

/-- What is put and filled is appended. -/
theorem foldl_put_tags {pieces : List (List α)} {data : List α} {n off : ℕ} (hoff : off = data.length)
    (h : pieces.flatten.length = n) :
    (Op.put n :: tags off pieces).foldl (Op.apply z) data = data ++ pieces.flatten := by
  rw [hoff, List.foldl_cons, apply_put, foldl_tags pieces data n h.le, h, Nat.sub_self]
  simp

end

end PutWrite
