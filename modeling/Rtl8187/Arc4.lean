/-
# ARC4

`arc4.c`: the key setup, and one step of the generator, which gives a byte of
the key stream. Encryption and decryption are the same function
(`arc4Crypt_arc4Crypt`).

The first byte of a key stream is also given on a permutation packed in a
number, which evaluates.

Key definitions: `Arc4Ctx`, `arc4SetKey`, `arc4Crypt`, `packedFirst`.
Key theorems: `arc4Crypt_arc4Crypt`, `arc4Next_first`.
-/
import Rtl8187.Lib.Bytes
import Rtl8187.Lib.StreamCipher
import Mathlib.Tactic.Set

namespace Rtl8187

open Bytes

/-- `struct arc4_ctx` -/
structure Arc4Ctx where
  S : List UInt8
  x : UInt8
  y : UInt8

/-- One turn of the second loop of `arc4_set_key`: `i`, then `S`, `j` and `k`. -/
def arc4SetKeyStep (inKey : List UInt8) (c : List UInt8 × UInt8 × ℕ) (i : ℕ) :
    List UInt8 × UInt8 × ℕ :=
  let (S, j, k) := c
  let a := at8 S i
  let j := j + at8 inKey k + a
  ((S.set i (at8 S j.toNat)).set j.toNat a, j, if inKey.length ≤ k + 1 then 0 else k + 1)

/-- `arc4_set_key` -/
def arc4SetKey (inKey : List UInt8) : Arc4Ctx :=
  let S := (List.range 256).map UInt8.ofNat
  ⟨((List.range 256).foldl (arc4SetKeyStep inKey) (S, 0, 0)).1, 1, 0⟩

/-- `arc4_crypt`: the context after a byte, and the byte of the key stream. -/
def arc4Next (ctx : Arc4Ctx) : Arc4Ctx × UInt8 :=
  let a := at8 ctx.S ctx.x.toNat
  let y := ctx.y + a
  let b := at8 ctx.S y.toNat
  let S := (ctx.S.set ctx.x.toNat b).set y.toNat a
  (⟨S, ctx.x + 1, y⟩, at8 S (a + b).toNat)

/-- A string under a fresh key setup. -/
def arc4Crypt (key bs : List UInt8) : List UInt8 :=
  StreamCipher.crypt arc4Next (arc4SetKey key) bs

@[simp] theorem length_arc4Crypt (key bs : List UInt8) : (arc4Crypt key bs).length = bs.length :=
  StreamCipher.length_crypt ..

/-- Decryption inverts encryption. -/
@[simp] theorem arc4Crypt_arc4Crypt (key bs : List UInt8) : arc4Crypt key (arc4Crypt key bs) = bs :=
  StreamCipher.crypt_crypt ..

/-! ### On a permutation packed in a number -/

/-- `arc4SetKeyStep`, on the permutation as a number. -/
def packedKeyStep (inKey : List UInt8) (c : ℕ × ℕ × ℕ) (i : ℕ) : ℕ × ℕ × ℕ :=
  let a := digit c.1 i
  let j := (c.2.1 + (at8 inKey c.2.2).toNat + a) % 256
  (setDigit (setDigit c.1 i (digit c.1 j)) j a, j, if inKey.length ≤ c.2.2 + 1 then 0 else c.2.2 + 1)

/-- The first byte a permutation gives. -/
def permFirst (S : ℕ) : ℕ :=
  let a := digit S 1
  let b := digit S a
  digit (setDigit (setDigit S 1 b) a a) ((a + b) % 256)

/-- The first byte of the key stream. -/
def packedFirst (inKey : List UInt8) : ℕ :=
  permFirst ((List.range 256).foldl (packedKeyStep inKey) (pack ((List.range 256).map UInt8.ofNat), 0, 0)).1

/-- Two states of the key setup that stand for the same. -/
structure Packs (c : List UInt8 × UInt8 × ℕ) (n : ℕ × ℕ × ℕ) : Prop where
  length : c.1.length = 256
  perm : pack c.1 = n.1
  j : c.2.1.toNat = n.2.1
  k : c.2.2 = n.2.2

theorem Packs.step {c : List UInt8 × UInt8 × ℕ} {n : ℕ × ℕ × ℕ} (h : Packs c n) (inKey : List UInt8)
    {i : ℕ} (hi : i < 256) : Packs (arc4SetKeyStep inKey c i) (packedKeyStep inKey n i) := by
  obtain ⟨S, j, k⟩ := c
  obtain ⟨N, j', k'⟩ := n
  obtain ⟨hlen, rfl, rfl, rfl⟩ := h
  dsimp only at hlen
  set j1 := j + at8 inKey k + at8 S i with hj1
  have hj : j1.toNat = (j.toNat + (at8 inKey k).toNat + digit (pack S) i) % 256 := by
    rw [hj1, UInt8.toNat_add, UInt8.toNat_add, digit_pack, Nat.mod_add_mod]
  refine ⟨?_, ?_, hj, rfl⟩
  · show ((S.set i _).set _ _).length = 256
    rw [List.length_set, List.length_set, hlen]
  · show pack ((S.set i (at8 S j1.toNat)).set j1.toNat (at8 S i)) = _
    rw [pack_set (by rw [List.length_set, hlen]; exact j1.toNat_lt), pack_set (hlen ▸ hi),
      ← digit_pack, ← digit_pack, hj]
    rfl

theorem Packs.foldl (inKey : List UInt8) {c : List UInt8 × UInt8 × ℕ} {n : ℕ × ℕ × ℕ}
    (h : Packs c n) {is : List ℕ} (his : ∀ i ∈ is, i < 256) :
    Packs (is.foldl (arc4SetKeyStep inKey) c) (is.foldl (packedKeyStep inKey) n) := by
  induction is generalizing c n with
  | nil => exact h
  | cons i is ih =>
    exact ih (h.step inKey (his i List.mem_cons_self)) fun k hk => his k (List.mem_cons_of_mem _ hk)

theorem permFirst_pack {S : List UInt8} (hlen : S.length = 256) :
    (arc4Next ⟨S, 1, 0⟩).2.toNat = permFirst (pack S) := by
  set a := at8 S 1 with ha
  set b := at8 S a.toNat with hb
  have hda : digit (pack S) 1 = a.toNat := digit_pack S 1
  have hdb : digit (pack S) a.toNat = b.toNat := digit_pack S a.toNat
  have hlt : a.toNat < (S.set 1 b).length := by
    rw [List.length_set, hlen]
    exact a.toNat_lt
  have hzero : (0 + a : UInt8) = a := UInt8.zero_add a
  have hnext : (arc4Next ⟨S, 1, 0⟩).2 =
      at8 ((S.set 1 (at8 S (0 + a).toNat)).set (0 + a).toNat a) (a + at8 S (0 + a).toNat).toNat := rfl
  rw [hnext, hzero, ← hb, ← digit_pack, pack_set hlt, pack_set (by rw [hlen]; decide),
    UInt8.toNat_add, permFirst, hda, hdb]

theorem arc4Next_first (inKey : List UInt8) :
    (arc4Next (arc4SetKey inKey)).2.toNat = packedFirst inKey := by
  have hid : ((List.range 256).map UInt8.ofNat).length = 256 := by
    rw [List.length_map, List.length_range]
  have hstart : ∀ S : List UInt8, S.length = 256 → Packs (S, 0, 0) (pack S, 0, 0) := by
    intro S h
    exact ⟨h, rfl, rfl, rfl⟩
  obtain ⟨hlen, hperm, -, -⟩ :=
    (hstart _ hid).foldl inKey fun i hi => List.mem_range.mp hi
  rw [arc4SetKey, permFirst_pack hlen, hperm, packedFirst]

/-- Keys whose streams start differently. -/
theorem arc4Crypt_ne {k k' : List UInt8} (h : packedFirst k ≠ packedFirst k') (b : UInt8)
    (bs bs' : List UInt8) : arc4Crypt k (arc4Crypt k' (b :: bs)) ≠ b :: bs' := by
  have hcancel : ∀ x y : UInt8, b ^^^ x ^^^ y = b → x = y := by
    intro x y hxy
    rw [UInt8.xor_assoc] at hxy
    have hzero : b ^^^ (x ^^^ y) = b ^^^ 0 := hxy.trans UInt8.xor_zero.symm
    exact UInt8.xor_eq_zero_iff.mp ((UInt8.xor_right_inj b).mp hzero)
  intro heq
  simp only [arc4Crypt, StreamCipher.crypt, List.cons.injEq] at heq
  have hfirst := hcancel _ _ heq.1
  apply h
  rw [← arc4Next_first, ← arc4Next_first, hfirst]

end Rtl8187
