/-
# Rijndael on a block of sixteen bytes

The block cipher in its own terms: the field of 256 elements on bytes, the
substitution as an inverse followed by an affine map, the rows, the columns
and the words of the key schedule. A block is four columns of four bytes. The
layers make a cipher of rounds (`layers`).

Key definitions: `gmul`, `InverseTable`, `sbox`, `mixColumn`, `layers`, `keyWord`, `cipher`, `invCipher`.
Key theorems: `gmul_ginv`, `invSbox_sbox`, `invMixColumn_mixColumn`, `invCipher_cipher`.
-/
import Rtl8187.Lib.RoundCipher
import Rtl8187.Lib.Words
import Mathlib.Data.List.FinRange

namespace Rijndael

open Words Bytes

/-! ### The field -/

/-- Multiplication by `x`. -/
def xtime (b : UInt8) : UInt8 := (b <<< 1) ^^^ (if b >>> 7 = 0 then 0 else 0x1b)

/-- The sum of the multiples of `b` by the `n` low bits of `c`. -/
def gmulLow : ℕ → UInt8 → UInt8 → UInt8
  | 0, _, _ => 0
  | n + 1, c, b => (if c &&& 1 = 0 then 0 else b) ^^^ gmulLow n (c >>> 1) (xtime b)

/-- The product of two elements. -/
def gmul (c b : UInt8) : UInt8 := gmulLow 8 c b

theorem top_bit : ∀ b : UInt8, b >>> 7 = 0 ∨ b >>> 7 = 1 :=
  forall_byte (by decide +kernel)

theorem xtime_xor (a b : UInt8) : xtime (a ^^^ b) = xtime a ^^^ xtime b := by
  have hbit : ∀ x y : UInt8, (x = 0 ∨ x = 1) → (y = 0 ∨ y = 1) →
      (if x ^^^ y = 0 then (0 : UInt8) else 0x1b) =
        (if x = 0 then 0 else 0x1b) ^^^ (if y = 0 then 0 else 0x1b) := by
    rintro x y (rfl | rfl) (rfl | rfl) <;> rfl
  unfold xtime
  rw [UInt8.shiftLeft_xor, UInt8.shiftRight_xor, hbit _ _ (top_bit a) (top_bit b)]
  ac_rfl

theorem gmulLow_xor : ∀ (n : ℕ) (c a b : UInt8),
    gmulLow n c (a ^^^ b) = gmulLow n c a ^^^ gmulLow n c b
  | 0, _, _, _ => UInt8.xor_self.symm
  | n + 1, c, a, b => by
    have ih := gmulLow_xor n (c >>> 1) (xtime a) (xtime b)
    rw [gmulLow, gmulLow, gmulLow, xtime_xor, ih]
    by_cases hc : c &&& 1 = 0
    · rw [if_pos hc, if_pos hc, if_pos hc]
      simp
    · rw [if_neg hc, if_neg hc, if_neg hc]
      ac_rfl

/-- Multiplication is linear. -/
theorem gmul_xor (c a b : UInt8) : gmul c (a ^^^ b) = gmul c a ^^^ gmul c b := gmulLow_xor ..

/-! ### Products on numbers, which evaluate -/

/-- `xtime`, on the number of a byte. -/
def xtimeNat (n : ℕ) : ℕ := Nat.xor (Nat.mul 2 n) (Nat.mul 0x11b (Nat.div n 128))

/-- `gmulLow`, on the numbers of bytes; the recursor and the operations by name are what the
kernel computes fastest with. -/
def gmulLowNat (n : ℕ) : ℕ → ℕ → ℕ :=
  Nat.rec (fun _ _ => 0)
    (fun _ ih c b => Nat.xor (Nat.mul (Nat.mod c 2) b) (ih (Nat.div c 2) (xtimeNat b))) n

theorem xtime_toNat : ∀ b : UInt8, (xtime b).toNat = xtimeNat b.toNat :=
  forall_byte (by decide +kernel)

theorem gmulLow_toNat : ∀ (n : ℕ) (c b : UInt8),
    (gmulLow n c b).toNat = gmulLowNat n c.toNat b.toNat
  | 0, _, _ => rfl
  | n + 1, c, b => by
    have hstep : gmulLowNat (n + 1) c.toNat b.toNat =
        (c.toNat % 2 * b.toNat) ^^^ gmulLowNat n (c.toNat / 2) (xtimeNat b.toNat) := rfl
    have hlow : c &&& 1 = 0 ↔ c.toNat % 2 = 0 := by
      rw [← UInt8.toNat_inj, UInt8.toNat_and]
      exact iff_of_eq (congrArg (· = 0) (Nat.and_one_is_mod _))
    have hshift : (c >>> 1).toNat = c.toNat / 2 := by
      rw [UInt8.toNat_shiftRight]
      rfl
    rw [gmulLow, hstep, UInt8.toNat_xor, gmulLow_toNat n, xtime_toNat, hshift]
    by_cases hc : c &&& 1 = 0
    · rw [if_pos hc, hlow.mp hc, Nat.zero_mul]
      rfl
    · have hodd : c.toNat % 2 = 1 := Nat.mod_two_ne_zero.mp (mt hlow.mpr hc)
      rw [if_neg hc, hodd, Nat.one_mul]

/-! ### The substitution -/

/-- The inverse of an element, its power 254; zero stays. -/
def ginv (b : UInt8) : UInt8 :=
  let b2 := gmul b b
  let b4 := gmul b2 b2
  let b8 := gmul b4 b4
  let b16 := gmul b8 b8
  let b32 := gmul b16 b16
  let b64 := gmul b32 b32
  let b128 := gmul b64 b64
  gmul b2 (gmul b4 (gmul b8 (gmul b16 (gmul b32 (gmul b64 b128)))))

/-- A number of 256 digits, by rows of 32 bytes, the lowest first. -/
def ofRows (rows : List ℕ) : ℕ := rows.foldr (fun row rest => row + rest <<< 256) 0

/-- `ginv`, on the number of a byte. -/
def ginvNat (b : ℕ) : ℕ :=
  let b2 := gmulLowNat 8 b b
  let b4 := gmulLowNat 8 b2 b2
  let b8 := gmulLowNat 8 b4 b4
  let b16 := gmulLowNat 8 b8 b8
  let b32 := gmulLowNat 8 b16 b16
  let b64 := gmulLowNat 8 b32 b32
  let b128 := gmulLowNat 8 b64 b64
  gmulLowNat 8 b2 (gmulLowNat 8 b4 (gmulLowNat 8 b8 (gmulLowNat 8 b16
    (gmulLowNat 8 b32 (gmulLowNat 8 b64 b128)))))

theorem ginv_toNat (b : UInt8) : (ginv b).toNat = ginvNat b.toNat := by
  simp only [ginv, ginvNat, gmul, gmulLow_toNat]

/-- A table of the inverses of the bytes, the digits of one number. -/
structure InverseTable where
  table : ℕ
  inverse : ∀ n < 256, ginvNat n = digit table n
  product : ∀ n < 256, n ≠ 0 → gmulLowNat 8 n (digit table n) = 1
  twice : ∀ n < 256, digit table (digit table n) = n

def ginvTable : InverseTable where
  table := ofRows
    [0xb2ee40ffccfd3f585f602b994baab474c7e5e1b0c0294fe8d17b52cbf68d0100,
     0x1959bb776f2035f2426639f36c92452cc2a2443015980ac1c9a84d55f15a6e3a,
     0x1761ec51f0223e18bf87244cca055ced09e9255413ab64a769f5312d6737fe1d,
     0x8281faa106d070b63cbab5108597b7793b219333df9147f44336a649d3af5e16,
     0x9a89dcf9889f142a72848ad86d326adea4b902f7d9959e9b56be7396807f7e83,
     0x5786bcbd3d768ea571787511ef1fe00c62d2e7ce4a12c8264865b88fc32e7cfb,
     0x6b90f89dd5c48b94eae2dbc563ae077ae6acfc1b045327a90fe4d4daa32f280b,
     0x1c411acda07d9cdd8c0346683438235bb31e505de3d74e08adcf0ec6ebd60db1]
  inverse := by decide +kernel
  product := by decide +kernel
  twice := by decide +kernel

theorem ginv_eq (b : UInt8) : (ginv b).toNat = digit ginvTable.table b.toNat := by
  rw [ginv_toNat, ginvTable.inverse _ b.toNat_lt]

theorem gmul_ginv (b : UInt8) (h : b ≠ 0) : gmul b (ginv b) = 1 := by
  apply UInt8.toNat_inj.mp
  rw [gmul, gmulLow_toNat, ginv_eq]
  exact ginvTable.product _ b.toNat_lt fun h0 => h (UInt8.toNat_inj.mp h0)

/-- A byte rotated left. -/
def rotByte (b n : UInt8) : UInt8 := (b <<< n) ||| (b >>> (8 - n))

/-- The affine map of the substitution. -/
def affine (i : UInt8) : UInt8 :=
  i ^^^ rotByte i 1 ^^^ rotByte i 2 ^^^ rotByte i 3 ^^^ rotByte i 4 ^^^ 0x63

/-- Its inverse. -/
def invAffine (b : UInt8) : UInt8 := rotByte b 1 ^^^ rotByte b 3 ^^^ rotByte b 6 ^^^ 0x05

/-- The substitution. -/
def sbox (b : UInt8) : UInt8 := affine (ginv b)

/-- Its inverse. -/
def invSbox (b : UInt8) : UInt8 := ginv (invAffine b)

theorem invAffine_affine : ∀ b, invAffine (affine b) = b := forall_byte (by decide +kernel)

theorem affine_invAffine : ∀ b, affine (invAffine b) = b := forall_byte (by decide +kernel)

theorem ginv_ginv (b : UInt8) : ginv (ginv b) = b := by
  apply UInt8.toNat_inj.mp
  rw [ginv_eq, ginv_eq, ginvTable.twice _ b.toNat_lt]

theorem invSbox_sbox (b : UInt8) : invSbox (sbox b) = b := by
  rw [invSbox, sbox, invAffine_affine, ginv_ginv]

theorem sbox_invSbox (b : UInt8) : sbox (invSbox b) = b := by
  rw [invSbox, sbox, ginv_ginv, affine_invAffine]

/-! ### Columns -/

/-- A column, or a word of the key schedule. -/
abbrev Col : Type := Fin 4 → UInt8

/-- A column mixed. -/
def mixColumn (c : Col) : Col := fun r =>
  gmul 2 (c r) ^^^ gmul 3 (c (r + 1)) ^^^ c (r + 2) ^^^ c (r + 3)

/-- A column unmixed. -/
def invMixColumn (c : Col) : Col := fun r =>
  gmul 14 (c r) ^^^ gmul 11 (c (r + 1)) ^^^ gmul 13 (c (r + 2)) ^^^ gmul 9 (c (r + 3))

theorem gmulLow_zero : ∀ (n : ℕ) (b : UInt8), gmulLow n 0 b = 0
  | 0, _ => rfl
  | n + 1, b => by
    have h : gmulLow (n + 1) 0 b = 0 ^^^ gmulLow n 0 (xtime b) := rfl
    rw [h, gmulLow_zero n, UInt8.xor_zero]

theorem gmul_two (b : UInt8) : gmul 2 b = xtime b := by
  have h : gmul 2 b = 0 ^^^ (xtime b ^^^ gmulLow 6 0 (xtime (xtime b))) := rfl
  rw [h, gmulLow_zero, UInt8.zero_xor, UInt8.xor_zero]

theorem gmul_three (b : UInt8) : gmul 3 b = b ^^^ xtime b := by
  have h : gmul 3 b = b ^^^ (xtime b ^^^ gmulLow 6 0 (xtime (xtime b))) := rfl
  rw [h, gmulLow_zero, UInt8.xor_zero]

/-- The multiples of a byte by the coefficients of the inverse, in terms of
the three doublings of it. -/
theorem gmul_inv_coeff (b : UInt8) :
    gmul 9 b = b ^^^ xtime (xtime (xtime b)) ∧
    gmul 11 b = b ^^^ (xtime b ^^^ xtime (xtime (xtime b))) ∧
    gmul 13 b = b ^^^ (xtime (xtime b) ^^^ xtime (xtime (xtime b))) ∧
    gmul 14 b = xtime b ^^^ (xtime (xtime b) ^^^ xtime (xtime (xtime b))) := by
  have h9 : gmul 9 b = b ^^^ (0 ^^^ (0 ^^^ (xtime (xtime (xtime b)) ^^^ gmulLow 4 0 _))) := rfl
  have h11 : gmul 11 b = b ^^^ (xtime b ^^^ (0 ^^^ (xtime (xtime (xtime b)) ^^^ gmulLow 4 0 _))) :=
    rfl
  have h13 : gmul 13 b =
      b ^^^ (0 ^^^ (xtime (xtime b) ^^^ (xtime (xtime (xtime b)) ^^^ gmulLow 4 0 _))) := rfl
  have h14 : gmul 14 b =
      0 ^^^ (xtime b ^^^ (xtime (xtime b) ^^^ (xtime (xtime (xtime b)) ^^^ gmulLow 4 0 _))) := rfl
  rw [h9, h11, h13, h14]
  simp only [gmulLow_zero, UInt8.xor_zero, UInt8.zero_xor, and_self]

theorem xor_cancel (a b : UInt8) : a ^^^ (a ^^^ b) = b := by
  rw [← UInt8.xor_assoc, UInt8.xor_self, UInt8.zero_xor]

theorem xor_left_comm (a b c : UInt8) : a ^^^ (b ^^^ c) = b ^^^ (a ^^^ c) := by
  rw [← UInt8.xor_assoc, UInt8.xor_comm a, UInt8.xor_assoc]

/-- A row of the inverse matrix over the columns of the other: one on the diagonal. -/
theorem inv_mix_coeff (b : UInt8) :
    gmul 14 (gmul 2 b) ^^^ gmul 11 b ^^^ gmul 13 b ^^^ gmul 9 (gmul 3 b) = b ∧
    gmul 14 (gmul 3 b) ^^^ gmul 11 (gmul 2 b) ^^^ gmul 13 b ^^^ gmul 9 b = 0 ∧
    gmul 14 b ^^^ gmul 11 (gmul 3 b) ^^^ gmul 13 (gmul 2 b) ^^^ gmul 9 b = 0 ∧
    gmul 14 b ^^^ gmul 11 b ^^^ gmul 13 (gmul 3 b) ^^^ gmul 9 (gmul 2 b) = 0 := by
  simp only [gmul_inv_coeff, gmul_two, gmul_three, xtime_xor]
  refine ⟨?_, ?_, ?_, ?_⟩ <;>
    simp only [UInt8.xor_assoc, UInt8.xor_comm, xor_left_comm, xor_cancel, UInt8.xor_self,
      UInt8.xor_zero]

/-- A row of the matrix over the columns of its inverse. -/
theorem mix_inv_coeff (b : UInt8) :
    gmul 2 (gmul 14 b) ^^^ gmul 3 (gmul 9 b) ^^^ gmul 13 b ^^^ gmul 11 b = b ∧
    gmul 2 (gmul 11 b) ^^^ gmul 3 (gmul 14 b) ^^^ gmul 9 b ^^^ gmul 13 b = 0 ∧
    gmul 2 (gmul 13 b) ^^^ gmul 3 (gmul 11 b) ^^^ gmul 14 b ^^^ gmul 9 b = 0 ∧
    gmul 2 (gmul 9 b) ^^^ gmul 3 (gmul 13 b) ^^^ gmul 11 b ^^^ gmul 14 b = 0 := by
  simp only [gmul_inv_coeff, gmul_two, gmul_three, xtime_xor]
  refine ⟨?_, ?_, ?_, ?_⟩ <;>
    simp only [UInt8.xor_assoc, UInt8.xor_comm, xor_left_comm, xor_cancel, UInt8.xor_self,
      UInt8.xor_zero]

theorem row_add : ∀ r : Fin 4, r + 1 + 1 = r + 2 ∧ r + 1 + 2 = r + 3 ∧ r + 1 + 3 = r ∧
    r + 2 + 1 = r + 3 ∧ r + 2 + 2 = r ∧ r + 2 + 3 = r + 1 ∧
    r + 3 + 1 = r ∧ r + 3 + 2 = r + 1 ∧ r + 3 + 3 = r + 2 := by decide

/-- Each place of a column gives itself back and nothing of the others. -/
theorem invMixColumn_mixColumn (c : Col) : invMixColumn (mixColumn c) = c := by
  funext r
  obtain ⟨h11, h12, h13, h21, h22, h23, h31, h32, h33⟩ := row_add r
  obtain ⟨k0, -⟩ := inv_mix_coeff (c r)
  obtain ⟨-, k1, -⟩ := inv_mix_coeff (c (r + 1))
  obtain ⟨-, -, k2, -⟩ := inv_mix_coeff (c (r + 2))
  obtain ⟨-, -, -, k3⟩ := inv_mix_coeff (c (r + 3))
  simp only [invMixColumn, mixColumn, h11, h12, h13, h21, h22, h23, h31, h32, h33, gmul_xor]
  calc _ = (gmul 14 (gmul 2 (c r)) ^^^ gmul 11 (c r) ^^^ gmul 13 (c r) ^^^ gmul 9 (gmul 3 (c r))) ^^^
        (gmul 14 (gmul 3 (c (r + 1))) ^^^ gmul 11 (gmul 2 (c (r + 1))) ^^^ gmul 13 (c (r + 1)) ^^^
          gmul 9 (c (r + 1))) ^^^
        (gmul 14 (c (r + 2)) ^^^ gmul 11 (gmul 3 (c (r + 2))) ^^^ gmul 13 (gmul 2 (c (r + 2))) ^^^
          gmul 9 (c (r + 2))) ^^^
        (gmul 14 (c (r + 3)) ^^^ gmul 11 (c (r + 3)) ^^^ gmul 13 (gmul 3 (c (r + 3))) ^^^
          gmul 9 (gmul 2 (c (r + 3)))) := by ac_rfl
    _ = c r := by rw [k0, k1, k2, k3, UInt8.xor_zero, UInt8.xor_zero, UInt8.xor_zero]

theorem mixColumn_invMixColumn (c : Col) : mixColumn (invMixColumn c) = c := by
  funext r
  obtain ⟨h11, h12, h13, h21, h22, h23, h31, h32, h33⟩ := row_add r
  obtain ⟨k0, -⟩ := mix_inv_coeff (c r)
  obtain ⟨-, k1, -⟩ := mix_inv_coeff (c (r + 1))
  obtain ⟨-, -, k2, -⟩ := mix_inv_coeff (c (r + 2))
  obtain ⟨-, -, -, k3⟩ := mix_inv_coeff (c (r + 3))
  simp only [invMixColumn, mixColumn, h11, h12, h13, h21, h22, h23, h31, h32, h33, gmul_xor]
  calc _ = (gmul 2 (gmul 14 (c r)) ^^^ gmul 3 (gmul 9 (c r)) ^^^ gmul 13 (c r) ^^^ gmul 11 (c r)) ^^^
        (gmul 2 (gmul 11 (c (r + 1))) ^^^ gmul 3 (gmul 14 (c (r + 1))) ^^^ gmul 9 (c (r + 1)) ^^^
          gmul 13 (c (r + 1))) ^^^
        (gmul 2 (gmul 13 (c (r + 2))) ^^^ gmul 3 (gmul 11 (c (r + 2))) ^^^ gmul 14 (c (r + 2)) ^^^
          gmul 9 (c (r + 2))) ^^^
        (gmul 2 (gmul 9 (c (r + 3))) ^^^ gmul 3 (gmul 13 (c (r + 3))) ^^^ gmul 11 (c (r + 3)) ^^^
          gmul 14 (c (r + 3))) := by ac_rfl
    _ = c r := by rw [k0, k1, k2, k3, UInt8.xor_zero, UInt8.xor_zero, UInt8.xor_zero]

theorem mixColumn_xor (c d : Col) :
    mixColumn (fun r => c r ^^^ d r) = fun r => mixColumn c r ^^^ mixColumn d r := by
  funext r
  simp only [mixColumn, gmul_xor]
  ac_rfl

/-! ### The cipher -/

/-- A block: four columns. -/
abbrev Block : Type := Fin 4 → Col

theorem place_cancel : ∀ c r : Fin 4, c - r + r = c ∧ c + r - r = c := by decide

/-- The layers of a round. -/
def layers : RoundCipher.Layers Block where
  add s k := fun c r => s c r ^^^ k c r
  sub :=
    { toFun := fun s c r => sbox (s c r)
      invFun := fun s c r => invSbox (s c r)
      left_inv := fun s => funext₂ fun c r => invSbox_sbox (s c r)
      right_inv := fun s => funext₂ fun c r => sbox_invSbox (s c r) }
  shift :=
    { toFun := fun s c r => s (c + r) r
      invFun := fun s c r => s (c - r) r
      left_inv := fun s => funext₂ fun c r => congrArg (s · r) (place_cancel c r).1
      right_inv := fun s => funext₂ fun c r => congrArg (s · r) (place_cancel c r).2 }
  mix :=
    { toFun := fun s c => mixColumn (s c)
      invFun := fun s c => invMixColumn (s c)
      left_inv := fun s => funext fun c => invMixColumn_mixColumn (s c)
      right_inv := fun s => funext fun c => mixColumn_invMixColumn (s c) }
  add_add s k := funext₂ fun c r => by
    rw [UInt8.xor_assoc, UInt8.xor_self, UInt8.xor_zero]
  mix_add s k := funext fun c => mixColumn_xor (s c) (k c)
  sub_shift s := rfl

/-! ### The key schedule -/

/-- A word rotated by a byte. -/
def rotWord (c : Col) : Col := fun r => c (r + 1)

/-- A word substituted. -/
def subWord (c : Col) : Col := fun r => sbox (c r)

/-- The constant of the `i`th group of words. -/
def rcon (i : ℕ) : Col := fun r => if r = 0 then xtime^[i - 1] 1 else 0

/-- What is added to the word a key length back: the word before, transformed at
the start of a group and, for the longest keys, in its middle. -/
def scheduleTemp (nk i : ℕ) (prev : Col) : Col :=
  if i % nk = 0 then fun r => subWord (rotWord prev) r ^^^ rcon (i / nk) r
  else if 6 < nk ∧ i % nk = 4 then subWord prev
  else prev

/-- A word of the key schedule of a key of `nk` words. -/
def keyWord (nk : ℕ) (key : ℕ → Col) (i : ℕ) : Col :=
  if i < nk ∨ nk = 0 then key i
  else fun r => keyWord nk key (i - nk) r ^^^ scheduleTemp nk i (keyWord nk key (i - 1)) r
termination_by i
decreasing_by all_goals omega

theorem keyWord_lt {nk i : ℕ} (key : ℕ → Col) (h : i < nk) : keyWord nk key i = key i := by
  rw [keyWord, if_pos (Or.inl h)]

theorem keyWord_ge {nk i : ℕ} (key : ℕ → Col) (h0 : 0 < nk) (h : nk ≤ i) : keyWord nk key i =
    fun r => keyWord nk key (i - nk) r ^^^ scheduleTemp nk i (keyWord nk key (i - 1)) r := by
  rw [keyWord, if_neg (by omega)]

/-- The words of a round. -/
def roundKey (w : ℕ → Col) (j : ℕ) : Block := fun c => w (4 * j + c)

/-- The keys of `nr` rounds. -/
def cipherKeys (w : ℕ → Col) (nr : ℕ) : RoundCipher.Keys Block :=
  ⟨roundKey w 0, (List.range (nr - 1)).map fun j => roundKey w (j + 1), roundKey w nr⟩

/-! ### On bytes -/

/-- The word of the bytes at `4 * j`. -/
def wordAt (bs : List UInt8) (j : ℕ) : Col := fun r => bs.getD (4 * j + r) 0

/-- The block of sixteen bytes, column after column. -/
def ofBytes (bs : List UInt8) : Block := fun c => wordAt bs c

/-- The bytes of a block. -/
def toBytes (s : Block) : List UInt8 :=
  (List.finRange 4).flatMap fun c => (List.finRange 4).map (s c)

/-- The keys of a key of 16, 24 or 32 bytes: six rounds more than it has words. -/
def keysOf (key : List UInt8) : RoundCipher.Keys Block :=
  cipherKeys (keyWord (key.length / 4) (wordAt key)) (key.length / 4 + 6)

/-- The cipher, on bytes. -/
def cipher (key block : List UInt8) : List UInt8 :=
  toBytes (layers.encrypt (keysOf key) (ofBytes block))

/-- The inverse cipher, on bytes. -/
def invCipher (key block : List UInt8) : List UInt8 :=
  toBytes (layers.decrypt (keysOf key) (ofBytes block))

theorem ofBytes_toBytes (s : Block) : ofBytes (toBytes s) = s := by
  funext c r
  match c, r with
  | 0, 0 | 0, 1 | 0, 2 | 0, 3 | 1, 0 | 1, 1 | 1, 2 | 1, 3
  | 2, 0 | 2, 1 | 2, 2 | 2, 3 | 3, 0 | 3, 1 | 3, 2 | 3, 3 => rfl

theorem toBytes_ofBytes : ∀ {bs : List UInt8}, bs.length = 16 → toBytes (ofBytes bs) = bs
  | [_, _, _, _, _, _, _, _, _, _, _, _, _, _, _, _], _ => rfl

@[simp] theorem length_toBytes (s : Block) : (toBytes s).length = 16 := rfl

@[simp] theorem length_cipher (key block : List UInt8) : (cipher key block).length = 16 := rfl

/-- The inverse cipher inverts the cipher. -/
theorem invCipher_cipher (key : List UInt8) {block : List UInt8} (h : block.length = 16) :
    invCipher key (cipher key block) = block := by
  rw [invCipher, cipher, ofBytes_toBytes, RoundCipher.Layers.decrypt_encrypt, toBytes_ofBytes h]

end Rijndael
