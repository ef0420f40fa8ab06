/-
# Strings of C in a memory

A string is the bytes up to the first that is zero (`text`). `compare` is the loop
that compares a memory with given bytes and stops where they differ, so `strcmp`
with a constant is `compare` with the constant's bytes and its zero: it tells
whether the memory has that string, however the array goes on behind it
(`strcmp_iff`), and it never reads more bytes than the constant has (`strcmp_all`).

Key definitions: `compare`, `strcmp`, `text`, `charsOf`, `bytesOf`.
Key theorems: `compare_iff`, `compare_all`, `strcmp_iff`, `strcmp_all`, `charsOf_eq_iff`.
-/
import Mathlib.Data.List.Basic
import Rtl8187.Lib.Traced

namespace CStrings

/-- The bytes from `i` on are compared with `bs`, up to the first that differs. -/
def compare (read : ℕ → Traced UInt8) : ℕ → List UInt8 → Traced Bool
  | _, [] => pure true
  | i, b :: bs => do
    let c ← read i
    if c = b then compare read (i + 1) bs else pure false

/-- `strcmp` of what is at `i` with a constant, which has no zero but the one at its end. -/
def strcmp (read : ℕ → Traced UInt8) (i : ℕ) (s : List UInt8) : Traced Bool := compare read i (s ++ [0])

/-- The string in the `n` bytes from `i` on: all of them, if none is zero. -/
def text (mem : ℕ → UInt8) : ℕ → ℕ → List UInt8
  | _, 0 => []
  | i, n + 1 => if mem i = 0 then [] else mem i :: text mem (i + 1) n

/-- The characters of bytes. -/
def charsOf (bs : List UInt8) : String := String.ofList (bs.map fun b => Char.ofNat b.toNat)

/-- The bytes of a string constant. -/
def bytesOf (s : String) : List UInt8 := s.toList.map fun c => UInt8.ofNat c.toNat

/-- Only the bytes of the array count. -/
theorem text_congr {mem mem' : ℕ → UInt8} {i n : ℕ} (h : ∀ j, i ≤ j → j < i + n → mem j = mem' j) :
    text mem i n = text mem' i n := by
  induction n generalizing i with
  | zero => rfl
  | succ n ih =>
    rw [text, text, h i (Nat.le_refl i) (Nat.lt_add_of_pos_right n.succ_pos),
      ih fun j hj hlt => h j (Nat.le_of_succ_le hj) (by omega)]

section

variable {read : ℕ → Traced UInt8} {p : Access → Prop}

/-- Nothing is read behind the bytes there are to compare with. -/
theorem compare_all {i : ℕ} {bs : List UInt8} (h : ∀ k < bs.length, (read (i + k)).All p) :
    (compare read i bs).All p := by
  induction bs generalizing i with
  | nil => exact Traced.pure_all _
  | cons b bs ih =>
    have htail : (compare read (i + 1) bs).All p := by
      apply ih
      intro k hk
      have hnext := h (k + 1) (Nat.succ_lt_succ hk)
      rwa [show i + 1 + k = i + (k + 1) by omega]
    unfold compare
    rw [Traced.all_bind, Traced.all_ite]
    exact ⟨h 0 (Nat.succ_pos _), fun _ => htail, fun _ => Traced.pure_all _⟩

/-- The comparison succeeds if all bytes are as given. -/
theorem compare_iff {i : ℕ} {bs : List UInt8} :
    (compare read i bs).value = true ↔ ∀ k (hk : k < bs.length), (read (i + k)).value = bs[k] := by
  induction bs generalizing i with
  | nil => exact iff_of_true rfl fun k hk => absurd hk (Nat.not_lt_zero k)
  | cons b bs ih =>
    unfold compare
    rw [Traced.value_bind, Traced.value_ite]
    by_cases hhead : (read i).value = b
    · rw [if_pos hhead, ih]
      constructor
      · intro h k hk
        cases k with
        | zero => exact hhead
        | succ k =>
          rw [show i + (k + 1) = i + 1 + k by omega]
          exact h k (Nat.lt_of_succ_lt_succ hk)
      · intro h k hk
        rw [show i + 1 + k = i + (k + 1) by omega]
        exact h (k + 1) (Nat.succ_lt_succ hk)
    · rw [if_neg hhead]
      exact iff_of_false Bool.false_ne_true fun h => hhead (h 0 (Nat.succ_pos _))

/-- A `strcmp` reads at most the constant's length and one byte. -/
theorem strcmp_all {i : ℕ} {s : List UInt8} (h : ∀ k ≤ s.length, (read (i + k)).All p) :
    (strcmp read i s).All p := by
  apply compare_all
  intro k hk
  apply h
  simpa [Nat.lt_succ_iff] using hk

/-- **What `strcmp` tells.** -/
theorem strcmp_iff {i n : ℕ} {s : List UInt8} (hzero : 0 ∉ s) (hn : s.length < n) :
    (strcmp read i s).value = true ↔ text (fun j => (read j).value) i n = s := by
  induction s generalizing i n with
  | nil =>
    obtain ⟨n, rfl⟩ := Nat.exists_eq_succ_of_ne_zero (Nat.ne_zero_of_lt hn)
    rw [strcmp, compare_iff, text]
    by_cases hend : (read i).value = 0
    · rw [if_pos hend]
      refine iff_of_true (fun k hk => ?_) rfl
      obtain rfl : k = 0 := by simpa using hk
      exact hend
    · rw [if_neg hend]
      exact iff_of_false (fun h => hend (h 0 Nat.one_pos)) (List.cons_ne_nil _ _)
  | cons b s ih =>
    obtain ⟨n, rfl⟩ := Nat.exists_eq_succ_of_ne_zero (Nat.ne_zero_of_lt hn)
    obtain ⟨hb, htail⟩ := not_or.mp (List.mem_cons.not.mp hzero)
    rw [strcmp, List.cons_append, compare, Traced.value_bind, Traced.value_ite, text]
    by_cases hhead : (read i).value = b
    · rw [if_pos hhead, if_neg (fun h => hb (h.symm.trans hhead)), hhead]
      exact (ih htail (Nat.lt_of_succ_lt_succ hn)).trans (List.cons_inj_right b).symm
    · rw [if_neg hhead]
      refine iff_of_false Bool.false_ne_true fun h => ?_
      split_ifs at h
      exact hhead (List.cons.inj h).1

end

/-- A byte as a character, and back. -/
theorem byte_of_char (b : UInt8) : UInt8.ofNat (Char.ofNat b.toNat).toNat = b := by
  have hvalid : b.toNat.isValidChar := Or.inl (Nat.lt_trans b.toNat_lt (by decide))
  have hchar : (Char.ofNat b.toNat).toNat = b.toNat := by
    rw [Char.ofNat, dif_pos hvalid]
    rfl
  rw [hchar, UInt8.ofNat_toNat]

theorem bytesOf_charsOf (bs : List UInt8) : bytesOf (charsOf bs) = bs := by
  unfold bytesOf charsOf
  rw [String.toList_ofList, List.map_map]
  exact (List.map_congr_left fun b _ => byte_of_char b).trans (List.map_id bs)

/-- Characters below 256 are told apart by their bytes. -/
theorem charsOf_eq_iff {bs : List UInt8} {s : String} (hs : charsOf (bytesOf s) = s) :
    charsOf bs = s ↔ bs = bytesOf s := by
  constructor
  · rintro rfl
    exact (bytesOf_charsOf bs).symm
  · rintro rfl
    exact hs

end CStrings
