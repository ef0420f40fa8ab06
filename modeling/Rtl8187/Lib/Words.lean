/-
# A word as four bytes

The bytes of a 32-bit word, least significant first, and what the operations a
C program does on whole words are on them: the exclusive or goes byte by
byte, a rotation by whole bytes moves them round, and a product with a small
number stays inside each byte when the bytes are bits.

Key definitions: `byteOf`, `ofBytes4`, `rotl`, `rotr`.
Key theorems: `forall_byte`, `byteOf_xor`, `byteOf_rotl`, `byteOf_rotr`, `byteOf_ofBytes4`, `byteOf_mul`.
-/
import Rtl8187.Lib.Bytes

namespace Words

open Bytes

/-- There are places in a word: with this the numerals are places. -/
scoped instance neZeroFour : NeZero 4 := ⟨by decide⟩

/-- Byte `r` of a word. -/
def byteOf (x : UInt32) (r : Fin 4) : UInt8 := (x >>> UInt32.ofNat (8 * r)).toUInt8

/-- The word of four bytes. -/
def ofBytes4 (a b c d : UInt8) : UInt32 :=
  a.toUInt32 ||| (b.toUInt32 <<< 8) ||| (c.toUInt32 <<< 16) ||| (d.toUInt32 <<< 24)

/-- A word rotated left by `n` places, 0 and 32 left out. -/
def rotl (x : UInt32) (n : ℕ) : UInt32 := (x <<< UInt32.ofNat n) ||| (x >>> UInt32.ofNat (32 - n))

/-- A word rotated right. -/
def rotr (x : UInt32) (n : ℕ) : UInt32 := (x >>> UInt32.ofNat n) ||| (x <<< UInt32.ofNat (32 - n))

theorem place_cases (r : Fin 4) : r = 0 ∨ r = 1 ∨ r = 2 ∨ r = 3 := by
  revert r
  decide

/-! ### Bits -/

/-- A statement on every byte, from its 256 cases. -/
theorem forall_byte {P : UInt8 → Prop} (h : ∀ n < 256, P (UInt8.ofNat n)) (b : UInt8) : P b := by
  have hb := h b.toNat b.toNat_lt
  rwa [UInt8.ofNat_toNat] at hb

theorem testBit_word (x : UInt32) {i : ℕ} (h : 32 ≤ i) : x.toNat.testBit i = false :=
  Nat.testBit_lt_two_pow (lt_of_lt_of_le x.toNat_lt (Nat.pow_le_pow_right (by decide) h))

theorem testBit_byte (b : UInt8) {i : ℕ} (h : 8 ≤ i) : b.toNat.testBit i = false :=
  Nat.testBit_lt_two_pow (lt_of_lt_of_le b.toNat_lt (Nat.pow_le_pow_right (by decide) h))

theorem byte_eq_of_testBit {a b : UInt8}
    (h : ∀ i < 8, a.toNat.testBit i = b.toNat.testBit i) : a = b := by
  apply UInt8.toNat_inj.mp
  apply Nat.eq_of_testBit_eq
  intro i
  rcases Nat.lt_or_ge i 8 with hi | hi
  · exact h i hi
  · rw [testBit_byte a hi, testBit_byte b hi]

theorem toNat_ofNat_mod {n : ℕ} (h : n < 32) : (UInt32.ofNat n).toNat % 32 = n := by
  rw [UInt32.toNat_ofNat']
  omega

theorem testBit_shl (x : UInt32) {n i : ℕ} (hn : n < 32) (hi : i < 32) :
    (x <<< UInt32.ofNat n).toNat.testBit i = (decide (n ≤ i) && x.toNat.testBit (i - n)) := by
  rw [UInt32.toNat_shiftLeft, toNat_ofNat_mod hn, Nat.testBit_mod_two_pow, Nat.testBit_shiftLeft]
  simp [hi]

theorem testBit_shr (x : UInt32) {n : ℕ} (i : ℕ) (hn : n < 32) :
    (x >>> UInt32.ofNat n).toNat.testBit i = x.toNat.testBit (n + i) := by
  rw [UInt32.toNat_shiftRight, toNat_ofNat_mod hn, Nat.testBit_shiftRight]

theorem testBit_byteOf (x : UInt32) (r : Fin 4) {i : ℕ} (hi : i < 8) :
    (byteOf x r).toNat.testBit i = x.toNat.testBit (8 * r + i) := by
  have hr : 8 * r.val < 32 := by omega
  have h8 : (byteOf x r).toNat = (x >>> UInt32.ofNat (8 * r)).toNat % 2 ^ 8 := UInt32.toNat_toUInt8 _
  rw [h8, Nat.testBit_mod_two_pow, testBit_shr x i hr]
  simp [hi]

/-! ### Operations -/

@[simp] theorem byteOf_xor (x y : UInt32) (r : Fin 4) :
    byteOf (x ^^^ y) r = byteOf x r ^^^ byteOf y r := by
  apply byte_eq_of_testBit
  intro i hi
  rw [UInt8.toNat_xor, Nat.testBit_xor, testBit_byteOf _ r hi, testBit_byteOf _ r hi,
    testBit_byteOf _ r hi, UInt32.toNat_xor, Nat.testBit_xor]

theorem testBit_rotl (x : UInt32) {n i : ℕ} (h0 : 0 < n) (hn : n < 32) (hi : i < 32) :
    (rotl x n).toNat.testBit i = x.toNat.testBit ((i + (32 - n)) % 32) := by
  rw [rotl, UInt32.toNat_or, Nat.testBit_or, testBit_shl x hn hi, testBit_shr x i (by omega)]
  by_cases h : n ≤ i
  · have hlt : (i + (32 - n)) % 32 = i - n := by omega
    rw [hlt, testBit_word x (by omega : 32 ≤ 32 - n + i)]
    simp [h]
  · have hlt : (i + (32 - n)) % 32 = 32 - n + i := by omega
    rw [hlt]
    simp [h]

/-- A rotation to the left by whole bytes. -/
theorem byteOf_rotl (x : UInt32) (k r : Fin 4) (hk : k ≠ 0) :
    byteOf (rotl x (8 * k)) r = byteOf x (r - k) := by
  have h0 : 0 < k.val := Nat.pos_of_ne_zero fun h => hk (Fin.ext h)
  apply byte_eq_of_testBit
  intro i hi
  rw [testBit_byteOf _ r hi, testBit_byteOf _ (r - k) hi,
    testBit_rotl x (by omega) (by omega) (by omega)]
  have hsub : (r - k).val = (4 - k.val + r.val) % 4 := Fin.sub_def r k ▸ rfl
  have hidx : (8 * r.val + i + (32 - 8 * k.val)) % 32 = 8 * (r - k).val + i := by
    rw [hsub]
    omega
  rw [hidx]

/-- To the right. -/
theorem byteOf_rotr (x : UInt32) (k r : Fin 4) (hk : k ≠ 0) :
    byteOf (rotr x (8 * k)) r = byteOf x (r + k) := by
  have h0 : 0 < k.val := Nat.pos_of_ne_zero fun h => hk (Fin.ext h)
  have hrot : rotr x (8 * k) = rotl x (8 * (4 - k.val)) := by
    have hsub : 32 - 8 * (4 - k.val) = 8 * k.val := by omega
    have hsub' : 32 - 8 * k.val = 8 * (4 - k.val) := by omega
    rw [rotr, rotl, hsub, hsub', UInt32.or_comm]
  apply byte_eq_of_testBit
  intro i hi
  rw [testBit_byteOf _ r hi, testBit_byteOf _ (r + k) hi, hrot,
    testBit_rotl x (by omega) (by omega) (by omega)]
  have hadd : (r + k).val = (r.val + k.val) % 4 := Fin.val_add r k
  have hidx : (8 * r.val + i + (32 - 8 * (4 - k.val))) % 32 = 8 * (r + k).val + i := by
    rw [hadd]
    omega
  rw [hidx]

theorem testBit_toUInt32 (a : UInt8) (i : ℕ) : a.toUInt32.toNat.testBit i = a.toNat.testBit i := by
  rw [UInt8.toNat_toUInt32]

/-- The bytes of the word of four bytes. -/
theorem byteOf_ofBytes4 (a b c d : UInt8) (r : Fin 4) :
    byteOf (ofBytes4 a b c d) r = match r with | 0 => a | 1 => b | 2 => c | 3 => d := by
  apply byte_eq_of_testBit
  intro i hi
  have h8 : ∀ (x : UInt8) (n j : ℕ), n < 32 → j < 32 →
      (x.toUInt32 <<< UInt32.ofNat n).toNat.testBit j = (decide (n ≤ j) && x.toNat.testBit (j - n)) :=
    fun x n j hn hj => by rw [testBit_shl _ hn hj, testBit_toUInt32]
  have hbits : ∀ j < 32, (ofBytes4 a b c d).toNat.testBit j =
      (a.toNat.testBit j || (decide (8 ≤ j) && b.toNat.testBit (j - 8)) ||
        (decide (16 ≤ j) && c.toNat.testBit (j - 16)) ||
        (decide (24 ≤ j) && d.toNat.testBit (j - 24))) := by
    intro j hj
    have e8 := h8 b 8 j (by decide) hj
    have e16 := h8 c 16 j (by decide) hj
    have e24 := h8 d 24 j (by decide) hj
    simp only [ofBytes4, UInt32.toNat_or, Nat.testBit_or, testBit_toUInt32]
    rw [← e8, ← e16, ← e24]
    rfl
  rw [testBit_byteOf _ r hi]
  match r with
  | 0 =>
    rw [hbits _ (by omega)]
    have hi' : 8 * ((0 : Fin 4) : ℕ) + i = i := Nat.zero_add i
    rw [hi']
    simp (disch := omega) [Nat.not_le.mpr]
  | 1 =>
    apply (hbits (8 + i) (by omega)).trans
    rw [testBit_byte a (by omega), Nat.add_sub_cancel_left]
    simp (disch := omega) [Nat.not_le.mpr]
  | 2 =>
    apply (hbits (16 + i) (by omega)).trans
    rw [testBit_byte a (by omega), testBit_byte b (by omega), Nat.add_sub_cancel_left]
    simp (disch := omega) [Nat.not_le.mpr]
  | 3 =>
    apply (hbits (24 + i) (by omega)).trans
    rw [testBit_byte a (by omega), testBit_byte b (by omega), testBit_byte c (by omega),
      Nat.add_sub_cancel_left]
    simp

/-- A byte as a word. -/
theorem byteOf_toUInt32 (a : UInt8) (r : Fin 4) :
    byteOf a.toUInt32 r = if r = 0 then a else 0 := by
  have h : a.toUInt32 = ofBytes4 a 0 0 0 := by
    apply UInt32.toNat_inj.mp
    simp [ofBytes4]
  rw [h, byteOf_ofBytes4]
  match r with
  | 0 | 1 | 2 | 3 => rfl

theorem toNat_byteOf (x : UInt32) (r : Fin 4) :
    (byteOf x r).toNat = x.toNat / 256 ^ r.val % 256 := by
  have hr : 8 * r.val < 32 := by omega
  have h8 : (byteOf x r).toNat = (x >>> UInt32.ofNat (8 * r)).toNat % 256 := UInt32.toNat_toUInt8 _
  have hpow : 2 ^ (8 * r.val) = 256 ^ r.val := Nat.pow_mul 2 8 r.val
  rw [h8, UInt32.toNat_shiftRight, toNat_ofNat_mod hr, Nat.shiftRight_eq_div_pow, hpow]

/-- A word is the sum of its bytes. -/
theorem toNat_eq_bytes (x : UInt32) : x.toNat = (byteOf x 0).toNat + 256 * (byteOf x 1).toNat +
    65536 * (byteOf x 2).toNat + 16777216 * (byteOf x 3).toNat := by
  have h0 : (byteOf x 0).toNat = x.toNat / 1 % 256 := toNat_byteOf x 0
  have h1 : (byteOf x 1).toNat = x.toNat / 256 % 256 := toNat_byteOf x 1
  have h2 : (byteOf x 2).toNat = x.toNat / 65536 % 256 := toNat_byteOf x 2
  have h3 : (byteOf x 3).toNat = x.toNat / 16777216 % 256 := toNat_byteOf x 3
  have hx := x.toNat_lt
  omega

/-- The bytes of a word, read off a sum. -/
theorem byteOf_of_toNat {x : UInt32} {p : Fin 4 → ℕ} (hp : ∀ q, p q < 256)
    (hx : x.toNat = p 0 + 256 * p 1 + 65536 * p 2 + 16777216 * p 3) (r : Fin 4) :
    (byteOf x r).toNat = p r := by
  have h0 := hp 0
  have h1 := hp 1
  have h2 := hp 2
  have h3 := hp 3
  rw [toNat_byteOf, hx]
  match r with
  | 0 =>
    show _ / 1 % 256 = _
    omega
  | 1 =>
    show _ / 256 % 256 = _
    omega
  | 2 =>
    show _ / 65536 % 256 = _
    omega
  | 3 =>
    show _ / 16777216 % 256 = _
    omega

/-- A product with a byte, when the bytes of the word are bits: nothing is carried
from a byte to the next. -/
theorem byteOf_mul {y : UInt32} (h : ∀ r, (byteOf y r).toNat ≤ 1) (c : UInt8) (r : Fin 4) :
    byteOf (y * c.toUInt32) r = byteOf y r * c := by
  have hlt : ∀ q, (byteOf y q).toNat * c.toNat < 256 := by
    intro q
    calc (byteOf y q).toNat * c.toNat ≤ 1 * c.toNat := Nat.mul_le_mul_right _ (h q)
      _ < 256 := by
        rw [Nat.one_mul]
        exact c.toNat_lt
  have hsum : y.toNat * c.toNat = (byteOf y 0).toNat * c.toNat + 256 * ((byteOf y 1).toNat * c.toNat) +
      65536 * ((byteOf y 2).toNat * c.toNat) + 16777216 * ((byteOf y 3).toNat * c.toNat) := by
    rw [toNat_eq_bytes y]
    ring
  have hprod : (y * c.toUInt32).toNat = y.toNat * c.toNat := by
    have l0 := hlt 0
    have l1 := hlt 1
    have l2 := hlt 2
    have l3 := hlt 3
    rw [UInt32.toNat_mul, UInt8.toNat_toUInt32]
    exact Nat.mod_eq_of_lt (by omega)
  apply UInt8.toNat_inj.mp
  rw [byteOf_of_toNat hlt (hprod.trans hsum), UInt8.toNat_mul, Nat.mod_eq_of_lt (hlt r)]

@[simp] theorem byteOf_and (x y : UInt32) (r : Fin 4) :
    byteOf (x &&& y) r = byteOf x r &&& byteOf y r := by
  apply byte_eq_of_testBit
  intro i hi
  rw [UInt8.toNat_and, Nat.testBit_and, testBit_byteOf _ r hi, testBit_byteOf _ r hi,
    testBit_byteOf _ r hi, UInt32.toNat_and, Nat.testBit_and]

/-- The bytes of a word masked with the same byte four times over. -/
theorem toNat_byteOf_mask (x : UInt32) (m : UInt8) (q : Fin 4) :
    (byteOf (x &&& ofBytes4 m m m m) q).toNat = (byteOf x q).toNat &&& m.toNat := by
  have hm : byteOf (ofBytes4 m m m m) q = m := by
    rw [byteOf_ofBytes4]
    match q with
    | 0 | 1 | 2 | 3 => rfl
  rw [byteOf_and, UInt8.toNat_and, hm]

theorem and_7f (b : UInt8) : b.toNat &&& 0x7f = b.toNat % 128 :=
  Nat.and_two_pow_sub_one_eq_mod b.toNat 7

theorem and_80 : ∀ n < 256, n &&& 0x80 = 128 * (n / 128) := by decide +kernel

/-- Every byte doubled at once, the tops of the bytes cleared first. -/
theorem byteOf_shl_low (x : UInt32) (r : Fin 4) :
    byteOf ((x &&& 0x7f7f7f7f) <<< 1) r = byteOf x r <<< 1 := by
  have hbytes : ∀ q, (byteOf (x &&& 0x7f7f7f7f) q).toNat = (byteOf x q).toNat % 128 := fun q =>
    (toNat_byteOf_mask x 0x7f q).trans (and_7f _)
  have hlt : ∀ q, 2 * ((byteOf x q).toNat % 128) < 256 := fun q => by omega
  have hsum : ((x &&& 0x7f7f7f7f) <<< 1).toNat = 2 * ((byteOf x 0).toNat % 128) +
      256 * (2 * ((byteOf x 1).toNat % 128)) + 65536 * (2 * ((byteOf x 2).toNat % 128)) +
      16777216 * (2 * ((byteOf x 3).toNat % 128)) := by
    have hshl : ((x &&& 0x7f7f7f7f) <<< 1).toNat = (x &&& 0x7f7f7f7f).toNat * 2 % 2 ^ 32 := by
      rw [UInt32.toNat_shiftLeft]
      exact congrArg (· % 2 ^ 32) (Nat.shiftLeft_eq _ _)
    rw [hshl, toNat_eq_bytes (x &&& 0x7f7f7f7f), hbytes, hbytes, hbytes, hbytes]
    omega
  apply UInt8.toNat_inj.mp
  rw [byteOf_of_toNat hlt hsum]
  have hshl : (byteOf x r <<< 1).toNat = (byteOf x r).toNat * 2 % 256 := by
    rw [UInt8.toNat_shiftLeft]
    exact congrArg (· % 2 ^ 8) (Nat.shiftLeft_eq _ _)
  rw [hshl]
  omega

/-- The tops of the bytes brought to their bottoms. -/
theorem byteOf_shr_top (x : UInt32) (r : Fin 4) :
    byteOf ((x &&& 0x80808080) >>> 7) r = byteOf x r >>> 7 := by
  have hbytes : ∀ q, (byteOf (x &&& 0x80808080) q).toNat = 128 * ((byteOf x q).toNat / 128) := fun q =>
    (toNat_byteOf_mask x 0x80 q).trans (and_80 _ (byteOf x q).toNat_lt)
  have hlt : ∀ q, (byteOf x q).toNat / 128 < 256 := fun q => by
    have := (byteOf x q).toNat_lt
    omega
  have hsum : ((x &&& 0x80808080) >>> 7).toNat = (byteOf x 0).toNat / 128 +
      256 * ((byteOf x 1).toNat / 128) + 65536 * ((byteOf x 2).toNat / 128) +
      16777216 * ((byteOf x 3).toNat / 128) := by
    have hshr : ((x &&& 0x80808080) >>> 7).toNat = (x &&& 0x80808080).toNat / 128 := by
      rw [UInt32.toNat_shiftRight]
      exact Nat.shiftRight_eq_div_pow _ 7
    rw [hshr, toNat_eq_bytes (x &&& 0x80808080), hbytes, hbytes, hbytes, hbytes]
    omega
  apply UInt8.toNat_inj.mp
  rw [byteOf_of_toNat hlt hsum, UInt8.toNat_shiftRight]
  exact (Nat.shiftRight_eq_div_pow _ 7).symm

end Words
