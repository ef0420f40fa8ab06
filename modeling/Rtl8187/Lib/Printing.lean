/-
# Printing into a buffer

A buffer of fixed size that is printed to piece by piece, the way `snprintf` is
called with a running pointer: the pointer moves by what it returns, which is the
length the text would have. As much of the text is stored as there is room for, with
a terminator; a room that is negative is refused.

The pointer stays within the buffer exactly as long as the texts fit (`run_p_le_iff`),
and then everything below it was stored (`filled_run`). No store goes elsewhere
(`addr_stores`).

Key definitions: `Buffer`, `stores`, `print`.
Key theorems: `addr_stores`, `run_p_le_iff`, `filled_run`, `text_run`.
-/
import Mathlib.Algebra.Order.Ring.Nat
import Rtl8187.Lib.MemOps
import Rtl8187.Lib.Run

namespace Printing

variable {α : Type*}

/-- What was stored so far, and the pointer as an offset. -/
structure Buffer (α : Type*) where
  mem : ℕ → Option α
  p : ℕ

/-- A buffer nothing was stored in. -/
def Buffer.fresh : Buffer α := ⟨fun _ => none, 0⟩

/-- The stores of one call, with `room` elements from `p` on. -/
def stores (nul : α) (p room : ℕ) (text : List α) : List (MemOps.Store (Option α)) :=
  if room = 0 then []
  else
    MemOps.copy p (min text.length (room - 1)) (fun i => text[i]?) ++
      [MemOps.Store.set (p + min text.length (room - 1)) (some nul)]

/-- One call, and the pointer moved by its result. -/
def print (nul : α) (size : ℕ) (b : Buffer α) (text : List α) : Buffer α :=
  if size < b.p then b
  else ⟨MemOps.run b.mem (stores nul b.p (size - b.p) text), b.p + text.length⟩

variable {nul : α} {size : ℕ}

/-- Every store is into the room. -/
theorem addr_stores {p room : ℕ} {text : List α} {st : MemOps.Store (Option α)} (h : st ∈ stores nul p room text) :
    p ≤ st.addr ∧ st.addr < p + room := by
  unfold stores at h
  split_ifs at h with hroom
  · exact absurd h List.not_mem_nil
  · rcases List.mem_append.mp h with hcopy | hnul
    · have haddr := MemOps.addr_copy hcopy
      omega
    · rw [List.mem_singleton.mp hnul]
      show p ≤ p + _ ∧ p + _ < p + room
      omega

/-- An element of the text is stored where it fits. -/
theorem run_stores {mem : ℕ → Option α} {p room : ℕ} {text : List α} {k : ℕ} (hk : k < text.length)
    (hroom : k + 1 < room) : MemOps.run mem (stores nul p room text) (p + k) = text[k]? := by
  have hmin : k < min text.length (room - 1) := by omega
  unfold stores
  rw [if_neg (by omega), MemOps.run_append, MemOps.run_of_not_mem, MemOps.run_copy _ _ _ hmin]
  intro st hst
  rw [List.mem_singleton.mp hst]
  show p + min text.length (room - 1) ≠ p + k
  omega

/-- Nothing below the pointer is touched. -/
theorem run_stores_below {mem : ℕ → Option α} {p room i : ℕ} {text : List α} (h : i < p) :
    MemOps.run mem (stores nul p room text) i = mem i :=
  MemOps.run_of_not_mem fun _ hst => Nat.ne_of_gt (Nat.lt_of_lt_of_le h (addr_stores hst).1)

theorem print_of_le {b : Buffer α} (h : b.p ≤ size) (text : List α) :
    print nul size b text = ⟨MemOps.run b.mem (stores nul b.p (size - b.p) text), b.p + text.length⟩ :=
  if_neg (Nat.not_lt.mpr h)

theorem p_le_print (b : Buffer α) (text : List α) : b.p ≤ (print nul size b text).p := by
  unfold print
  split_ifs
  · exact Nat.le_refl b.p
  · exact Nat.le_add_right b.p text.length

theorem p_le_run : ∀ (b : Buffer α) (texts : List (List α)), b.p ≤ (Run.run (print nul size) b texts).p
  | b, [] => Nat.le_refl b.p
  | b, text :: texts => Nat.le_trans (p_le_print b text) (p_le_run _ texts)

/-- A pointer that left the buffer does not move any more. -/
theorem run_of_lt : ∀ {b : Buffer α} (_ : size < b.p) (texts : List (List α)),
    Run.run (print nul size) b texts = b
  | _, _, [] => rfl
  | b, h, text :: texts => by
    rw [Run.run_cons, print, if_pos h]
    exact run_of_lt h texts

/-- **The pointer is within the buffer exactly if the texts fit.** -/
theorem run_p_le_iff : ∀ {b : Buffer α} (_ : b.p ≤ size) (texts : List (List α)),
    (Run.run (print nul size) b texts).p ≤ size ↔ b.p + (texts.map List.length).sum ≤ size
  | _, h, [] => by simp [h]
  | b, h, text :: texts => by
    have hp : (print nul size b text).p = b.p + text.length := by rw [print_of_le h]
    rw [Run.run_cons, List.map_cons, List.sum_cons, ← Nat.add_assoc, ← hp]
    by_cases hin : (print nul size b text).p ≤ size
    · exact run_p_le_iff hin texts
    · rw [run_of_lt (Nat.not_le.mp hin)]
      omega

/-- And then it is behind the last text. -/
theorem run_p_of_fit : ∀ {b : Buffer α} (texts : List (List α)), b.p + (texts.map List.length).sum ≤ size →
    (Run.run (print nul size) b texts).p = b.p + (texts.map List.length).sum
  | _, [], _ => rfl
  | b, text :: texts, h => by
    rw [List.map_cons, List.sum_cons, ← Nat.add_assoc] at h ⊢
    have hp : (print nul size b text).p = b.p + text.length := by rw [print_of_le (by omega)]
    rw [← hp] at h ⊢
    exact run_p_of_fit texts h

/-- Everything below the pointer was stored. -/
def Filled (b : Buffer α) : Prop := ∀ i < b.p, (b.mem i).isSome

theorem filled_fresh : Filled (Buffer.fresh : Buffer α) := fun i hi => absurd hi (Nat.not_lt_zero i)

theorem filled_print {b : Buffer α} (h : Filled b) (text : List α) (hfit : b.p + text.length ≤ size) :
    Filled (print nul size b text) := by
  rw [print_of_le (by omega)]
  intro i hi
  by_cases hold : i < b.p
  · show (MemOps.run b.mem _ i).isSome
    rw [run_stores_below hold]
    exact h i hold
  · obtain ⟨k, rfl⟩ := Nat.exists_eq_add_of_le (Nat.not_lt.mp hold)
    have hk : k < text.length := Nat.lt_of_add_lt_add_left hi
    show (MemOps.run b.mem (stores nul b.p (size - b.p) text) (b.p + k)).isSome
    by_cases hroom : k + 1 < size - b.p
    · rw [run_stores hk hroom, List.getElem?_eq_getElem hk]
      rfl
    · -- the last element gives way to the terminator
      have hlast : min text.length (size - b.p - 1) = k := by omega
      unfold stores
      rw [if_neg (by omega), MemOps.run_append, hlast]
      exact congrArg Option.isSome (MemOps.set_apply_self _ _ _)

/-- **Where the texts fit, everything below the pointer was stored.** -/
theorem filled_run : ∀ {b : Buffer α} (_ : Filled b) (texts : List (List α)),
    b.p + (texts.map List.length).sum ≤ size → Filled (Run.run (print nul size) b texts)
  | _, h, [], _ => h
  | b, h, text :: texts, hfit => by
    rw [List.map_cons, List.sum_cons, ← Nat.add_assoc] at hfit
    have hp : (print nul size b text).p = b.p + text.length := by rw [print_of_le (by omega)]
    exact filled_run (filled_print h text (by omega)) texts (by rw [hp]; exact hfit)

/-- What is below the pointer stays. -/
theorem run_below : ∀ {b : Buffer α} (texts : List (List α)) {i : ℕ}, i < b.p →
    (Run.run (print nul size) b texts).mem i = b.mem i
  | _, [], _, _ => rfl
  | b, text :: texts, i, h => by
    have hkeep : (print nul size b text).mem i = b.mem i := by
      unfold print
      split_ifs
      · rfl
      · exact run_stores_below h
    exact (run_below texts (Nat.lt_of_lt_of_le h (p_le_print b text))).trans hkeep

/-- **Where the texts fit, the buffer holds them one after the other**, but for an
element that the terminator took. -/
theorem text_run : ∀ {b : Buffer α} (texts : List (List α)) {k : ℕ}, b.p + (texts.map List.length).sum ≤ size →
    k < texts.flatten.length → b.p + k + 1 < size →
    (Run.run (print nul size) b texts).mem (b.p + k) = texts.flatten[k]?
  | _, [], _, _, hk, _ => absurd hk (Nat.not_lt_zero _)
  | b, text :: texts, k, hfit, hk, hroom => by
    rw [List.map_cons, List.sum_cons, ← Nat.add_assoc] at hfit
    rw [List.flatten_cons, List.length_append] at hk
    have hp : (print nul size b text).p = b.p + text.length := by rw [print_of_le (by omega)]
    rw [Run.run_cons, List.flatten_cons]
    by_cases hfirst : k < text.length
    · rw [run_below texts (by omega), print_of_le (by omega), List.getElem?_append_left hfirst]
      exact run_stores hfirst (by omega)
    · obtain ⟨j, rfl⟩ := Nat.exists_eq_add_of_le (Nat.not_lt.mp hfirst)
      rw [List.getElem?_append_right (by omega), Nat.add_sub_cancel_left, ← Nat.add_assoc, ← hp]
      exact text_run texts (by omega) (by omega) (by omega)

end Printing
