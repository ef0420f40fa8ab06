/-
# Rijndael on numbers

The cipher with a key of sixteen bytes once more, on the numbers of the bytes. The
substitution is a look-up in a table of one number, a block sixteen numbers, and the key of
a round is made of the one before; so a block is encrypted in the kernel, which the
definition by functions on places does not allow. Each operation on numbers is proved to be
the one on bytes (`of_add`, `of_subShift`, `of_mix`, `of_nextKey`).

Key definitions: `SboxTable`, `NatCol`, `NatBlock`, `NatBlock.nextKey`, `NatBlock.cipher`, `evalCipher`.
Key theorems: `sbox_toNat`, `NatBlock.of_nextKey`, `NatBlock.of_rounds`, `evalCipher_eq`.
-/
import Rtl8187.Lib.Rijndael

namespace Rijndael

open Words Bytes

/-! ### Bytes -/

/-- A table of the substitution, the digits of one number. -/
structure SboxTable where
  table : ℕ
  sub : ∀ n < 256, (affine (UInt8.ofNat (digit ginvTable.table n))).toNat = digit table n

def sboxTable : SboxTable where
  table := ofRows
    [0xc072a49cafa2d4adf04759fa7dc982ca76abd7fe2b670130c56f6bf27b777c63,
     0x75b227ebe28012079a059618c323c7041531d871f1e5a534ccf73f362693fdb7,
     0xcf584c4a39becb6a5bb1fc20ed00d153842fe329b3d63b52a05a6e1b1a2c8309,
     0xd2f3ff1021dab6bcf5389d928f40a351a89f3c507f02f94585334d43fbaaefd0,
     0xdb0b5ede14b8ee4688902a22dc4f816073195d643d7ea7c41744975fec130ccd,
     0x08ae7a65eaf4566ca94ed58d6d37c8e779e4959162acd3c25c2406490a3a32e0,
     0x9e1dc186b95735610ef6034866b53e708a8bbd4b1f74dde8c6b4a61c2e2578ba,
     0x16bb54b00f2d99416842e6bf0d89a18cdf2855cee9871e9b948ed9691198f8e1]
  sub := by decide +kernel

/-- `sbox`, on the number of a byte. -/
def sboxNat (n : ℕ) : ℕ := digit sboxTable.table n

theorem sbox_toNat (b : UInt8) : (sbox b).toNat = sboxNat b.toNat := by
  rw [sboxNat, ← sboxTable.sub _ b.toNat_lt, ← ginv_eq, UInt8.ofNat_toNat, sbox]

/-! ### Columns and blocks -/

/-- The numbers of the bytes of a column. -/
structure NatCol where
  a : ℕ
  b : ℕ
  c : ℕ
  d : ℕ

/-- Four columns. -/
structure NatBlock where
  c0 : NatCol
  c1 : NatCol
  c2 : NatCol
  c3 : NatCol

namespace NatCol

/-- Those of a column. -/
def of (c : Col) : NatCol := ⟨(c 0).toNat, (c 1).toNat, (c 2).toNat, (c 3).toNat⟩

def add (s k : NatCol) : NatCol := ⟨Nat.xor s.a k.a, Nat.xor s.b k.b, Nat.xor s.c k.c, Nat.xor s.d k.d⟩

def sub (s : NatCol) : NatCol := ⟨sboxNat s.a, sboxNat s.b, sboxNat s.c, sboxNat s.d⟩

def rot (s : NatCol) : NatCol := ⟨s.b, s.c, s.d, s.a⟩

/-- The first byte of a mixed column. -/
def mixFirst (a b c d : ℕ) : ℕ := Nat.xor (Nat.xor (Nat.xor (xtimeNat a) (Nat.xor b (xtimeNat b))) c) d

def mix (s : NatCol) : NatCol :=
  ⟨mixFirst s.a s.b s.c s.d, mixFirst s.b s.c s.d s.a, mixFirst s.c s.d s.a s.b, mixFirst s.d s.a s.b s.c⟩

def bytes (s : NatCol) : List UInt8 := [UInt8.ofNat s.a, UInt8.ofNat s.b, UInt8.ofNat s.c, UInt8.ofNat s.d]

theorem of_add (s k : Col) : of (fun r => s r ^^^ k r) = (of s).add (of k) := by
  simp only [of, UInt8.toNat_xor]
  rfl

theorem of_sub (s : Col) : of (subWord s) = (of s).sub := by
  simp only [of, subWord, sbox_toNat]
  rfl

theorem mixFirst_toNat (a b c d : UInt8) :
    (gmul 2 a ^^^ gmul 3 b ^^^ c ^^^ d).toNat = mixFirst a.toNat b.toNat c.toNat d.toNat := by
  rw [gmul_two, gmul_three, UInt8.toNat_xor, UInt8.toNat_xor, UInt8.toNat_xor, UInt8.toNat_xor, xtime_toNat,
    xtime_toNat]
  rfl

theorem of_mix (s : Col) : of (mixColumn s) = (of s).mix := by
  simp only [of, mixColumn, mixFirst_toNat]
  rfl

theorem bytes_of (s : Col) : (of s).bytes = (List.finRange 4).map s := by
  have hrange : List.finRange 4 = [0, 1, 2, 3] := rfl
  simp [bytes, of, hrange]

end NatCol

namespace NatBlock

/-- Those of a block. -/
def of (s : Block) : NatBlock := ⟨.of (s 0), .of (s 1), .of (s 2), .of (s 3)⟩

def add (s k : NatBlock) : NatBlock := ⟨s.c0.add k.c0, s.c1.add k.c1, s.c2.add k.c2, s.c3.add k.c3⟩

/-- The rows shifted, of a block that is substituted. -/
def subShift (s : NatBlock) : NatBlock :=
  ⟨.sub ⟨s.c0.a, s.c1.b, s.c2.c, s.c3.d⟩, .sub ⟨s.c1.a, s.c2.b, s.c3.c, s.c0.d⟩,
    .sub ⟨s.c2.a, s.c3.b, s.c0.c, s.c1.d⟩, .sub ⟨s.c3.a, s.c0.b, s.c1.c, s.c2.d⟩⟩

def mix (s : NatBlock) : NatBlock := ⟨s.c0.mix, s.c1.mix, s.c2.mix, s.c3.mix⟩

def bytes (s : NatBlock) : List UInt8 := s.c0.bytes ++ s.c1.bytes ++ s.c2.bytes ++ s.c3.bytes

theorem of_add (s k : Block) : of (layers.add s k) = (of s).add (of k) := by
  simp only [of, layers, NatCol.of_add]
  rfl

theorem of_subShift (s : Block) : of (layers.shift (layers.sub s)) = (of s).subShift := by
  have hcol : ∀ c : Fin 4, layers.shift (layers.sub s) c = subWord fun r => s (c + r) r := fun _ => rfl
  simp only [of, hcol, NatCol.of_sub]
  rfl

theorem of_mix (s : Block) : of (layers.mix s) = (of s).mix := by
  have hcol : ∀ c : Fin 4, layers.mix s c = mixColumn (s c) := fun _ => rfl
  simp only [of, hcol, NatCol.of_mix]
  rfl

theorem bytes_of (s : Block) : (of s).bytes = toBytes s := by
  simp only [bytes, of, NatCol.bytes_of, toBytes]
  rfl

/-- The key of the next round of a cipher with keys of four words. -/
def nextKey (k : NatBlock) (j : ℕ) : NatBlock :=
  let t := k.c3.rot.sub.add ⟨xtimeNat^[j] 1, 0, 0, 0⟩
  let c0 := k.c0.add t
  let c1 := k.c1.add c0
  let c2 := k.c2.add c1
  ⟨c0, c1, c2, k.c3.add c2⟩

theorem of_rcon (j : ℕ) : NatCol.of (rcon (j + 1)) = ⟨xtimeNat^[j] 1, 0, 0, 0⟩ := by
  have hiter : (xtime^[j] 1).toNat = xtimeNat^[j] (UInt8.toNat 1) :=
    Function.Semiconj.iterate_right xtime_toNat j 1
  have hfirst : rcon (j + 1) 0 = xtime^[j] 1 := rfl
  have hrest : rcon (j + 1) 1 = 0 ∧ rcon (j + 1) 2 = 0 ∧ rcon (j + 1) 3 = 0 := ⟨rfl, rfl, rfl⟩
  rw [NatCol.of, hfirst, hrest.1, hrest.2.1, hrest.2.2, hiter]
  rfl

/-- The first word of a round's key. -/
theorem of_keyWord_turn (key : ℕ → Col) (j : ℕ) :
    NatCol.of (keyWord 4 key (4 * (j + 1))) = (NatCol.of (keyWord 4 key (4 * j))).add
      ((NatCol.of (keyWord 4 key (4 * j + 3))).rot.sub.add ⟨xtimeNat^[j] 1, 0, 0, 0⟩) := by
  have hmod : 4 * (j + 1) % 4 = 0 := by omega
  have hdiv : 4 * (j + 1) / 4 = j + 1 := by omega
  have hback : 4 * (j + 1) - 4 = 4 * j := by omega
  have hprev : 4 * (j + 1) - 1 = 4 * j + 3 := by omega
  rw [keyWord_ge key (by decide) (by omega), NatCol.of_add, hback, hprev, scheduleTemp, if_pos hmod,
    hdiv, NatCol.of_add, NatCol.of_sub, of_rcon]
  rfl

/-- The others. -/
theorem of_keyWord_link (key : ℕ → Col) (j : ℕ) {i : ℕ} (hi : i < 3) :
    NatCol.of (keyWord 4 key (4 * (j + 1) + (i + 1))) =
      (NatCol.of (keyWord 4 key (4 * j + (i + 1)))).add (NatCol.of (keyWord 4 key (4 * (j + 1) + i))) := by
  have hmod : (4 * (j + 1) + (i + 1)) % 4 ≠ 0 := by omega
  have hback : 4 * (j + 1) + (i + 1) - 4 = 4 * j + (i + 1) := by omega
  have hprev : 4 * (j + 1) + (i + 1) - 1 = 4 * (j + 1) + i := by omega
  rw [keyWord_ge key (by decide) (by omega), NatCol.of_add, hback, hprev, scheduleTemp, if_neg hmod,
    if_neg fun h => absurd h.1 (by decide)]

theorem of_nextKey (key : ℕ → Col) (j : ℕ) :
    of (roundKey (keyWord 4 key) (j + 1)) = (of (roundKey (keyWord 4 key) j)).nextKey j := by
  have hcols : ∀ j, of (roundKey (keyWord 4 key) j) = ⟨.of (keyWord 4 key (4 * j)),
      .of (keyWord 4 key (4 * j + 1)), .of (keyWord 4 key (4 * j + 2)), .of (keyWord 4 key (4 * j + 3))⟩ :=
    fun _ => rfl
  have h0 : NatCol.of (keyWord 4 key (4 * (j + 1) + 0)) = _ := of_keyWord_turn key j
  have h1 : NatCol.of (keyWord 4 key (4 * (j + 1) + 1)) = _ := of_keyWord_link key j (by decide)
  have h2 : NatCol.of (keyWord 4 key (4 * (j + 1) + 2)) = _ := of_keyWord_link key j (by decide)
  have h3 : NatCol.of (keyWord 4 key (4 * (j + 1) + 3)) = _ := of_keyWord_link key j (by decide)
  rw [hcols, hcols, nextKey, h3, h2, h1, h0, of_keyWord_turn]

/-- The rounds from `j` on, each with the key after that of the one before. -/
def rounds (j : ℕ) : ℕ → NatBlock → NatBlock → NatBlock × NatBlock
  | 0, s, k => (s, k)
  | n + 1, s, k => rounds (j + 1) n (s.subShift.mix.add (k.nextKey j)) (k.nextKey j)

/-- The cipher with a key of four words. -/
def cipher (key block : NatBlock) : NatBlock :=
  let (s, k) := rounds 0 9 (block.add key) key
  s.subShift.add (k.nextKey 9)

theorem of_rounds (key : ℕ → Col) : ∀ (n j : ℕ) (s : Block),
    rounds j n (of s) (of (roundKey (keyWord 4 key) j)) =
      (of (((List.range' (j + 1) n).map (roundKey (keyWord 4 key))).foldl layers.round s),
        of (roundKey (keyWord 4 key) (j + n)))
  | 0, _, _ => rfl
  | n + 1, j, s => by
    have hround : (of s).subShift.mix.add (of (roundKey (keyWord 4 key) (j + 1))) =
        of (layers.round s (roundKey (keyWord 4 key) (j + 1))) := by
      rw [RoundCipher.Layers.round, of_add, of_mix, of_subShift]
    rw [rounds, ← of_nextKey, hround, of_rounds key n (j + 1), List.range'_succ, List.map_cons, List.foldl_cons,
      Nat.add_assoc j 1 n, Nat.add_comm 1 n]

end NatBlock

/-- `cipher`, which evaluates when the key has sixteen bytes. -/
def evalCipher (key block : List UInt8) : List UInt8 :=
  if key.length = 16 then (NatBlock.cipher (.of (ofBytes key)) (.of (ofBytes block))).bytes
  else cipher key block

theorem evalCipher_eq (key block : List UInt8) : evalCipher key block = cipher key block := by
  unfold evalCipher
  by_cases h : key.length = 16
  · have hfirst : roundKey (keyWord 4 (wordAt key)) 0 = ofBytes key := by
      funext c
      have hlt : 4 * 0 + c.val < 4 := by omega
      rw [roundKey, keyWord_lt _ hlt, Nat.mul_zero, Nat.zero_add]
      rfl
    have hkeys : keysOf key = cipherKeys (keyWord 4 (wordAt key)) 10 := by rw [keysOf, h]
    have hrounds := NatBlock.of_rounds (wordAt key) 9 0 (layers.add (ofBytes block) (ofBytes key))
    rw [hfirst, NatBlock.of_add] at hrounds
    rw [if_pos h, NatBlock.cipher, hrounds, cipher, hkeys]
    dsimp only
    rw [← NatBlock.of_nextKey, ← NatBlock.of_subShift, ← NatBlock.of_add, NatBlock.bytes_of, cipherKeys,
      RoundCipher.Layers.encrypt, RoundCipher.Layers.lastRound, hfirst]
    rfl
  · rw [if_neg h]

-- the example vector of the standard for keys of this length
example : cipher (counted 16) ((List.range 16).map fun i => UInt8.ofNat (17 * i)) =
    [0x69, 0xc4, 0xe0, 0xd8, 0x6a, 0x7b, 0x04, 0x30, 0xd8, 0xcd, 0xb7, 0x80, 0x70, 0xb4, 0xc5, 0x5a] := by
  rw [← evalCipher_eq]
  decide +kernel

end Rijndael
