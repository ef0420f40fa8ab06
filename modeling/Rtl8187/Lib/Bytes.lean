/-
# Byte strings

What a C program does with a buffer, on lists of bytes: little- and
big-endian fields at an offset, slices, and the bytewise exclusive or. A
read past the end gives 0, so the lemmas that carry a read from one buffer to
another ask for the offsets to be inside both.

Key definitions: `mk16`, `get16`, `slice`, `xorBytes`, `pack`.
Key theorems: `mk16_hi8_lo8`, `slice_append_left`, `get16_append_left`,
`xorBytes_xorBytes`.
-/
import Mathlib.Data.Nat.Bitwise
import Mathlib.Data.List.Basic
import Mathlib.Tactic.Ring

namespace Bytes

/-- The bytes from zero on. -/
def counted (n : ℕ) : List UInt8 := (List.range n).map UInt8.ofNat

/-- The low byte of a 16-bit word. -/
def lo8 (v : UInt16) : UInt8 := v.toUInt8

/-- The high byte of a 16-bit word. -/
def hi8 (v : UInt16) : UInt8 := (v >>> 8).toUInt8

/-- The 16-bit word of a high and a low byte. -/
def mk16 (hi lo : UInt8) : UInt16 := lo.toUInt16 ||| (hi.toUInt16 <<< 8)

theorem lo8_toNat (v : UInt16) : (lo8 v).toNat = v.toNat % 256 := rfl

theorem hi8_toNat (v : UInt16) : (hi8 v).toNat = v.toNat / 256 := by
  have h := v.toNat_lt
  have h8 : UInt16.toNat 8 % 16 = 8 := rfl
  simp only [hi8, UInt16.toNat_toUInt8, UInt16.toNat_shiftRight, h8, Nat.shiftRight_eq_div_pow]
  omega

theorem mk16_toNat (hi lo : UInt8) : (mk16 hi lo).toNat = lo.toNat + 256 * hi.toNat := by
  have h1 := lo.toNat_lt
  have h2 := hi.toNat_lt
  have h8 : UInt16.toNat 8 % 16 = 8 := rfl
  have h := @Nat.two_pow_add_eq_or_of_lt 8 lo.toNat h1 hi.toNat
  simp only [mk16, UInt16.toNat_or, UInt8.toNat_toUInt16, UInt16.toNat_shiftLeft, h8,
    Nat.shiftLeft_eq]
  rw [Nat.mod_eq_of_lt (by omega), Nat.lor_comm, Nat.mul_comm, ← h]
  omega

@[simp] theorem mk16_hi8_lo8 (v : UInt16) : mk16 (hi8 v) (lo8 v) = v := by
  apply UInt16.toNat_inj.mp
  rw [mk16_toNat, hi8_toNat, lo8_toNat]
  omega

@[simp] theorem lo8_mk16 (hi lo : UInt8) : lo8 (mk16 hi lo) = lo := by
  apply UInt8.toNat_inj.mp
  have h1 := lo.toNat_lt
  rw [lo8_toNat, mk16_toNat]
  omega

@[simp] theorem hi8_mk16 (hi lo : UInt8) : hi8 (mk16 hi lo) = hi := by
  apply UInt8.toNat_inj.mp
  have h1 := lo.toNat_lt
  rw [hi8_toNat, mk16_toNat]
  omega

/-- A mask is one for each byte. -/
theorem mk16_and (hi lo hi' lo' : UInt8) :
    mk16 hi lo &&& mk16 hi' lo' = mk16 (hi &&& hi') (lo &&& lo') := by
  apply UInt16.toNat_inj.mp
  have h1 := lo.toNat_lt
  have h2 := lo'.toNat_lt
  have h3 := (lo &&& lo').toNat_lt
  apply Nat.eq_of_testBit_eq
  intro i
  have hbits : ∀ h l : UInt8, l.toNat < 2 ^ 8 → (mk16 h l).toNat.testBit i =
      if i < 8 then l.toNat.testBit i else h.toNat.testBit (i - 8) := by
    intro h l hl
    rw [mk16_toNat, Nat.add_comm]
    exact Nat.testBit_two_pow_mul_add h.toNat hl i
  rw [UInt16.toNat_and, Nat.testBit_and, hbits hi lo h1, hbits hi' lo' h2,
    hbits (hi &&& hi') (lo &&& lo') h3, UInt8.toNat_and, UInt8.toNat_and, Nat.testBit_and,
    Nat.testBit_and]
  split_ifs <;> rfl

/-- The two bytes of a little-endian word. -/
def le16 (v : UInt16) : List UInt8 := [lo8 v, hi8 v]

/-- The two bytes of a big-endian word. -/
def be16 (v : UInt16) : List UInt8 := [hi8 v, lo8 v]

/-- The four bytes of a little-endian word. -/
def le32 (v : UInt32) : List UInt8 :=
  [v.toUInt8, (v >>> 8).toUInt8, (v >>> 16).toUInt8, (v >>> 24).toUInt8]

/-- Its bytes give the word back. -/
theorem le32_read (v : UInt32) : v.toUInt8.toUInt32 ||| ((v >>> 8).toUInt8.toUInt32 <<< 8) |||
    ((v >>> 16).toUInt8.toUInt32 <<< 16) ||| ((v >>> 24).toUInt8.toUInt32 <<< 24) = v := by
  apply UInt32.toNat_inj.mp
  apply Nat.eq_of_testBit_eq
  intro i
  have hv : 32 ≤ i → v.toNat.testBit i = false := fun hi =>
    Nat.testBit_lt_two_pow (lt_of_lt_of_le v.toNat_lt (Nat.pow_le_pow_right (by decide) hi))
  have hbyte : ∀ n : ℕ, n % 256 = n % 2 ^ 8 := fun _ => rfl
  simp only [UInt32.toNat_or, UInt32.toNat_shiftLeft, UInt32.toNat_shiftRight, UInt8.toNat_toUInt32,
    UInt32.toNat_toUInt8, UInt32.reduceToNat, Nat.reduceMod, hbyte, Nat.testBit_or,
    Nat.testBit_mod_two_pow, Nat.testBit_shiftLeft, Nat.testBit_shiftRight]
  -- what a byte shifted by `k` has of the bits
  have hshift : ∀ k, (decide (i < 32) && (decide (i ≥ k) && (decide (i - k < 8) && v.toNat.testBit (k + (i - k))))) =
      (decide (k ≤ i ∧ i < k + 8 ∧ i < 32) && v.toNat.testBit i) := by
    intro k
    by_cases hk : k ≤ i
    · have hlt : i - k < 8 ↔ i < k + 8 := by omega
      rw [Nat.add_sub_cancel' hk]
      simp [hk, hlt, Bool.and_left_comm, Bool.and_assoc]
    · simp [hk]
  rw [hshift 8, hshift 16, hshift 24]
  cases hbit : v.toNat.testBit i with
  | false => simp
  | true =>
    have hlt : i < 32 := by
      by_contra h
      rw [hv (not_lt.mp h)] at hbit
      cases hbit
    simp
    omega

/-- The byte at offset `i`. -/
def at8 (d : List UInt8) (i : ℕ) : UInt8 := d.getD i 0

/-- The little-endian word at offset `i`. -/
def get16 (d : List UInt8) (i : ℕ) : UInt16 := mk16 (at8 d (i + 1)) (at8 d i)

/-- The big-endian word at offset `i`. -/
def getBe16 (d : List UInt8) (i : ℕ) : UInt16 := mk16 (at8 d i) (at8 d (i + 1))

/-- The `n` bytes from offset `i`. -/
def slice (i n : ℕ) (d : List UInt8) : List UInt8 := (d.drop i).take n

/-! ### Reads inside a prefix -/

theorem at8_append_left {a : List UInt8} {i : ℕ} (b : List UInt8) (h : i < a.length) :
    at8 (a ++ b) i = at8 a i := by
  simp [at8, List.getD_eq_getElem?_getD, List.getElem?_append_left h]

theorem at8_append_right {a : List UInt8} {i : ℕ} (b : List UInt8) (h : a.length ≤ i) :
    at8 (a ++ b) i = at8 b (i - a.length) := by
  simp [at8, List.getD_eq_getElem?_getD, List.getElem?_append_right h]

theorem slice_append_left {a : List UInt8} {i n : ℕ} (b : List UInt8) (h : i + n ≤ a.length) :
    slice i n (a ++ b) = slice i n a := by
  rw [slice, slice, List.drop_append_of_le_length (by omega), List.take_append_of_le_length]
  rw [List.length_drop]
  omega

/-- A byte behind the first ones. -/
theorem at8_drop (d : List UInt8) {n k : ℕ} : at8 (d.drop n) k = at8 d (n + k) := by
  rw [at8, at8, List.getD_eq_getElem?_getD, List.getD_eq_getElem?_getD, List.getElem?_drop]

theorem at8_tail (d : List UInt8) (k : ℕ) : at8 d.tail k = at8 d (k + 1) := by
  rw [← List.drop_one, at8_drop, Nat.add_comm]

theorem at8_take {d : List UInt8} {i k : ℕ} (h : i < k) : at8 (d.take k) i = at8 d i := by
  simp [at8, List.getD_eq_getElem?_getD, List.getElem?_take_of_lt h]

theorem get16_take {d : List UInt8} {i k : ℕ} (h : i + 1 < k) : get16 (d.take k) i = get16 d i := by
  rw [get16, get16, at8_take h, at8_take (by omega)]

theorem slice_take {d : List UInt8} {i n k : ℕ} (h : i + n ≤ k) :
    slice i n (d.take k) = slice i n d := by
  rw [slice, slice, List.drop_take, List.take_take, min_eq_left (by omega)]

theorem slice_add (i m n : ℕ) (d : List UInt8) : slice i (m + n) d = slice i m d ++ slice (i + m) n d := by
  rw [slice, slice, slice, List.take_add, List.drop_drop]

/-- A word is written as it was read. -/
theorem be16_getBe16 {d : List UInt8} {i : ℕ} (h : i + 2 ≤ d.length) : be16 (getBe16 d i) = slice i 2 d := by
  have hbytes : be16 (getBe16 d i) = [at8 d i, at8 d (i + 1)] := by
    rw [be16, getBe16, hi8_mk16, lo8_mk16]
  have hfirst : d[i]? = some (at8 d i) := by
    rw [at8, List.getD_eq_getElem?_getD, List.getElem?_eq_getElem (by omega)]
    rfl
  have hsecond : d[i + 1]? = some (at8 d (i + 1)) := by
    rw [at8, List.getD_eq_getElem?_getD, List.getElem?_eq_getElem (by omega)]
    rfl
  rw [hbytes, slice]
  apply List.ext_getElem?
  intro k
  match k with
  | 0 =>
    rw [List.getElem?_take_of_lt (by decide), List.getElem?_drop]
    exact hfirst.symm
  | 1 =>
    rw [List.getElem?_take_of_lt (by decide), List.getElem?_drop]
    exact hsecond.symm
  | k + 2 => rw [List.getElem?_eq_none (by simp), List.getElem?_eq_none (by simp)]

/-! ### Exclusive or -/

/-- The bytewise exclusive or of two strings, as long as the shorter. -/
def xorBytes (a b : List UInt8) : List UInt8 := List.zipWith (· ^^^ ·) a b

@[simp] theorem length_xorBytes (a b : List UInt8) :
    (xorBytes a b).length = min a.length b.length := List.length_zipWith

/-- Masking twice with the same string gives the plaintext back. -/
theorem xorBytes_xorBytes : ∀ a b : List UInt8, a.length ≤ b.length →
    xorBytes (xorBytes a b) b = a
  | [], _, _ => rfl
  | _ :: _, [], h => by simp at h
  | x :: a, y :: b, h => by
    have ih := xorBytes_xorBytes a b (by simpa using h)
    simp only [xorBytes, List.zipWith_cons_cons] at ih ⊢
    rw [ih, UInt8.xor_assoc, UInt8.xor_self, UInt8.xor_zero]

/-! ### A string as a number -/

/-- The bytes as the digits of a number, the first one lowest. -/
def pack : List UInt8 → ℕ
  | [] => 0
  | b :: bs => b.toNat + 256 * pack bs

theorem pack_append : ∀ a b : List UInt8, pack (a ++ b) = pack a + 256 ^ a.length * pack b
  | [], b => by simp [pack]
  | x :: a, b => by
    have ih := pack_append a b
    rw [List.cons_append, pack, ih, pack, List.length_cons, Nat.pow_succ']
    ring

/-- The digit `i`. -/
def digit (n i : ℕ) : ℕ := n / 256 ^ i % 256

/-- The number with another digit `i`. -/
def setDigit (n i b : ℕ) : ℕ := n + 256 ^ i * b - 256 ^ i * digit n i

theorem digit_pack : ∀ (l : List UInt8) (i : ℕ), digit (pack l) i = (at8 l i).toNat
  | [], i => by simp [digit, pack, at8]
  | b :: bs, 0 => by
    have hb := b.toNat_lt
    have hat : at8 (b :: bs) 0 = b := rfl
    rw [digit, pack, hat]
    omega
  | b :: bs, i + 1 => by
    have hb := b.toNat_lt
    have hat : at8 (b :: bs) (i + 1) = at8 bs i := rfl
    have hdiv : (b.toNat + 256 * pack bs) / 256 = pack bs := by omega
    rw [hat, ← digit_pack bs i, digit, digit, pack, Nat.pow_succ', ← Nat.div_div_eq_div_mul, hdiv]

theorem pack_set {b : UInt8} : ∀ {l : List UInt8} {i : ℕ}, i < l.length →
    pack (l.set i b) = setDigit (pack l) i b.toNat := by
  have hset : ∀ {l : List UInt8} {i : ℕ}, i < l.length →
      pack (l.set i b) + 256 ^ i * (at8 l i).toNat = pack l + 256 ^ i * b.toNat := by
    intro l
    induction l with
    | nil => intro i h; cases h
    | cons c l ih =>
      intro i h
      cases i with
      | zero =>
        have hat : at8 (c :: l) 0 = c := rfl
        rw [hat, List.set_cons_zero, pack, pack]
        omega
      | succ i =>
        have hat : at8 (c :: l) (i + 1) = at8 l i := rfl
        have hrest := ih (Nat.lt_of_succ_lt_succ h)
        rw [hat, List.set_cons_succ, pack, pack, Nat.pow_succ', Nat.mul_assoc, Nat.mul_assoc]
        omega
  intro l i h
  have heq := hset h
  rw [setDigit, digit_pack]
  omega

end Bytes
