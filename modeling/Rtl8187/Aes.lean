/-
# AES

`aes.c`: the tables it generates when it is loaded, the key schedule and the
block functions that look four bytes up in the tables and add the words. The
words `E` of the encryption and `D` of the decryption are one array, since
with the longest key the last words of `E` are written over the first of `D`.

Key definitions: `Aes.powTab`, `Aes.sbxTab`, `Aes.ftTab`, `Aes.itTab`, `AesCtx`, `aesSetKey`,
`aesEncrypt`, `aesDecrypt`.
-/
import Rtl8187.Lib.Words
import Mathlib.Data.List.FinRange

namespace Rtl8187

open Bytes Words

namespace Aes

/-! ### Tables -/

/-- `generic_rotl32` -/
def genericRotl32 (x : UInt32) (bits : ℕ) : UInt32 := rotl x (bits % 32)

/-- `generic_rotr32` -/
def genericRotr32 (x : UInt32) (bits : ℕ) : UInt32 := rotr x (bits % 32)

/-- `byte` -/
def byte (x : UInt32) (n : Fin 4) : UInt8 := (x >>> UInt32.ofNat (n.val <<< 3)).toUInt8

/-- What a doubling in the field takes off: `(p & 0x80 ? 0x01b : 0)`. -/
def reduction (p : UInt8) : UInt8 := if p &&& 0x80 ≠ 0 then 0x1b else 0

/-- One turn of the first loop of `gen_tabs`: `pow_tab`, `log_tab` and `p`. -/
def powLogStep (c : List UInt8 × List UInt8 × UInt8) (i : ℕ) : List UInt8 × List UInt8 × UInt8 :=
  let p := c.2.2
  (c.1.set i p, c.2.1.set p.toNat (UInt8.ofNat i), p ^^^ ((p <<< 1) ^^^ reduction p))

/-- The first loop. -/
def powLogTabs : List UInt8 × List UInt8 × UInt8 :=
  (List.range 256).foldl powLogStep (List.replicate 256 0, List.replicate 256 0, 1)

/-- `pow_tab` -/
def powTab : List UInt8 := powLogTabs.1

/-- `log_tab` -/
def logTab : List UInt8 := powLogTabs.2.1.set 1 0

/-- One turn of the second loop: `rco_tab` and `p`. -/
def rcoStep (c : List UInt32 × UInt8) (i : ℕ) : List UInt32 × UInt8 :=
  (c.1.set i c.2.toUInt32, (c.2 <<< 1) ^^^ reduction c.2)

/-- `rco_tab` -/
def rcoTab : List UInt32 := ((List.range 10).foldl rcoStep (List.replicate 10 0, 1)).1

/-- One turn of the third loop: `sbx_tab` and `isb_tab`. -/
def sbxStep (c : List UInt8 × List UInt8) (i : ℕ) : List UInt8 × List UInt8 :=
  let p := if i ≠ 0 then at8 powTab (255 - (at8 logTab i).toNat) else 0
  let q := ((p >>> 7) ||| (p <<< 1)) ^^^ ((p >>> 6) ||| (p <<< 2))
  let p := p ^^^ ((0x63 : UInt8) ^^^ q ^^^ ((q >>> 6) ||| (q <<< 2)))
  (c.1.set i p, c.2.set p.toNat (UInt8.ofNat i))

/-- The third loop. -/
def sbxTabs : List UInt8 × List UInt8 :=
  (List.range 256).foldl sbxStep (List.replicate 256 0, List.replicate 256 0)

/-- `sbx_tab` -/
def sbxTab : List UInt8 := sbxTabs.1

/-- `isb_tab` -/
def isbTab : List UInt8 := sbxTabs.2

/-- `f_mult` -/
def fMult (a b : UInt8) : UInt8 :=
  let aa := at8 logTab a.toNat
  let cc := aa + at8 logTab b.toNat
  at8 powTab (cc.toNat + if cc < aa then 1 else 0)

/-- `ff_mult` -/
def ffMult (a b : UInt8) : UInt8 := if a ≠ 0 ∧ b ≠ 0 then fMult a b else 0

/-- The four tables the last loop of `gen_tabs` makes of a word: the word itself,
and turned by one, two and three bytes. -/
def turned (n : Fin 4) (t : UInt32) : UInt32 :=
  match n with
  | 0 => t
  | 1 => genericRotl32 t 8
  | 2 => genericRotl32 t 16
  | 3 => genericRotl32 t 24

/-- `fl_tab` -/
def flTab (n : Fin 4) : List UInt32 :=
  (List.range 256).map fun i => turned n (at8 sbxTab i).toUInt32

/-- The word of `ft_tab`. -/
def ftWord (p : UInt8) : UInt32 :=
  (ffMult 2 p).toUInt32 ||| (p.toUInt32 <<< 8) ||| (p.toUInt32 <<< 16) |||
    ((ffMult 3 p).toUInt32 <<< 24)

/-- `ft_tab` -/
def ftTab (n : Fin 4) : List UInt32 :=
  (List.range 256).map fun i => turned n (ftWord (at8 sbxTab i))

/-- `il_tab` -/
def ilTab (n : Fin 4) : List UInt32 :=
  (List.range 256).map fun i => turned n (at8 isbTab i).toUInt32

/-- The word of `it_tab`. -/
def itWord (p : UInt8) : UInt32 :=
  (ffMult 14 p).toUInt32 ||| ((ffMult 9 p).toUInt32 <<< 8) ||| ((ffMult 13 p).toUInt32 <<< 16) |||
    ((ffMult 11 p).toUInt32 <<< 24)

/-- `it_tab` -/
def itTab (n : Fin 4) : List UInt32 :=
  (List.range 256).map fun i => turned n (itWord (at8 isbTab i))

/-- An entry of a table of words. -/
def look (tab : List UInt32) (b : UInt8) : UInt32 := tab.getD b.toNat 0

/-! ### The key schedule -/

/-- `star_x` -/
def starX (x : UInt32) : UInt32 :=
  ((x &&& 0x7f7f7f7f) <<< 1) ^^^ (((x &&& 0x80808080) >>> 7) * 0x1b)

/-- `imix_col` -/
def imixCol (x : UInt32) : UInt32 :=
  let u := starX x
  let v := starX u
  let w := starX v
  let t := w ^^^ x
  (u ^^^ v ^^^ w) ^^^ (genericRotr32 (u ^^^ t) 8 ^^^ genericRotr32 (v ^^^ t) 16 ^^^ genericRotr32 t 24)

/-- `ls_box` -/
def lsBox (x : UInt32) : UInt32 :=
  look (flTab 0) (byte x 0) ^^^ look (flTab 1) (byte x 1) ^^^ look (flTab 2) (byte x 2) ^^^
    look (flTab 3) (byte x 3)

/-- The words of a context: `E` from 0 on, `D` from 60 on. -/
structure AesWords where
  words : List UInt32
  length_words : words.length = 120

namespace AesWords

def get (w : AesWords) (i : ℕ) : UInt32 := w.words.getD i 0

def put (w : AesWords) (i : ℕ) (v : UInt32) : AesWords :=
  ⟨w.words.set i v, List.length_set.trans w.length_words⟩

theorem get_put (w : AesWords) {i : ℕ} (hi : i < 120) (v : UInt32) (j : ℕ) :
    (w.put i v).get j = if j = i then v else w.get j := by
  have hlen : i < w.words.length := w.length_words ▸ hi
  rw [get, get, put, List.getD_eq_getElem?_getD, List.getD_eq_getElem?_getD, List.getElem?_set]
  by_cases h : i = j
  · rw [if_pos h, if_pos hlen, if_pos h.symm]
    rfl
  · rw [if_neg h, if_neg (Ne.symm h)]

end AesWords

/-- `t ^= E_KEY[k]; E_KEY[k + nk] = t;` -/
def chain (nk : ℕ) (c : UInt32 × AesWords) (k : ℕ) : UInt32 × AesWords :=
  let t := c.1 ^^^ c.2.get k
  (t, c.2.put (k + nk) t)

/-- `t = rotr(t, 8); t = ls_box(t) ^ rco_tab[i];` -/
def turnBox (i : ℕ) (t : UInt32) : UInt32 := lsBox (genericRotr32 t 8) ^^^ rcoTab.getD i 0

/-- `loop4` -/
def loop4 (c : UInt32 × AesWords) (i : ℕ) : UInt32 × AesWords :=
  [4 * i, 4 * i + 1, 4 * i + 2, 4 * i + 3].foldl (chain 4) (turnBox i c.1, c.2)

/-- `loop6` -/
def loop6 (c : UInt32 × AesWords) (i : ℕ) : UInt32 × AesWords :=
  [6 * i, 6 * i + 1, 6 * i + 2, 6 * i + 3, 6 * i + 4, 6 * i + 5].foldl (chain 6)
    (turnBox i c.1, c.2)

/-- `loop8` -/
def loop8 (c : UInt32 × AesWords) (i : ℕ) : UInt32 × AesWords :=
  let c := [8 * i, 8 * i + 1, 8 * i + 2, 8 * i + 3].foldl (chain 8) (turnBox i c.1, c.2)
  let t := c.2.get (8 * i + 4) ^^^ lsBox c.1
  let c := (t, c.2.put (8 * i + 12) t)
  [8 * i + 5, 8 * i + 6, 8 * i + 7].foldl (chain 8) c

end Aes

open Aes

/-- `struct aes_ctx` -/
structure AesCtx where
  keyLength : ℕ
  words : AesWords

namespace AesCtx

/-- `E_KEY` -/
def eKey (ctx : AesCtx) (i : ℕ) : UInt32 := ctx.words.get i

/-- `D_KEY` -/
def dKey (ctx : AesCtx) (i : ℕ) : UInt32 := ctx.words.get (60 + i)

end AesCtx

namespace Aes

/-- `u32_in` -/
def u32In (d : List UInt8) (i : ℕ) : UInt32 :=
  ofBytes4 (at8 d i) (at8 d (i + 1)) (at8 d (i + 2)) (at8 d (i + 3))

/-- The first words of `E`, which are the key. -/
def keyWords (inKey : List UInt8) (w : AesWords) (n : ℕ) : AesWords :=
  (List.range n).foldl (fun w i => w.put i (u32In inKey (4 * i))) w

/-- `E_KEY`, by the length of the key. -/
def expandE (inKey : List UInt8) (w : AesWords) : AesWords :=
  if inKey.length = 16 then
    let w := keyWords inKey w 4
    ((List.range 10).foldl loop4 (w.get 3, w)).2
  else if inKey.length = 24 then
    let w := keyWords inKey w 6
    ((List.range 8).foldl loop6 (w.get 5, w)).2
  else
    let w := keyWords inKey w 8
    ((List.range 7).foldl loop8 (w.get 7, w)).2

/-- `D_KEY` from `E_KEY`: the first four words as they are, the others unmixed. -/
def expandD (keyLen : ℕ) (w : AesWords) : AesWords :=
  let w := (List.range 4).foldl (fun w i => w.put (60 + i) (w.get i)) w
  (List.range' 4 (keyLen + 20)).foldl (fun w i => w.put (60 + i) (imixCol (w.get i))) w

end Aes

/-- `CRYPTO_TFM_RES_BAD_KEY_LEN` -/
def tfmResBadKeyLen : UInt32 := 0x00200000

/-- `aes_set_key`: the return value, `*flags` and the context. -/
def aesSetKey (ctx : AesCtx) (inKey : List UInt8) (flags : UInt32) : ℤ × UInt32 × AesCtx :=
  if inKey.length ≠ 16 ∧ inKey.length ≠ 24 ∧ inKey.length ≠ 32 then
    (-22, flags ||| tfmResBadKeyLen, ctx)
  else (0, flags, ⟨inKey.length, expandD inKey.length (expandE inKey ctx.words)⟩)

/-! ### Blocks -/

/-- The four words of a block: `b0` or `b1`. -/
structure AesBlock where
  w0 : UInt32
  w1 : UInt32
  w2 : UInt32
  w3 : UInt32

namespace AesBlock

def get (b : AesBlock) : Fin 4 → UInt32
  | 0 => b.w0
  | 1 => b.w1
  | 2 => b.w2
  | 3 => b.w3

def ofFn (f : Fin 4 → UInt32) : AesBlock := ⟨f 0, f 1, f 2, f 3⟩

@[simp] theorem get_ofFn (f : Fin 4 → UInt32) (n : Fin 4) : (ofFn f).get n = f n :=
  match n with
  | 0 | 1 | 2 | 3 => rfl

end AesBlock

section

variable (ctx : AesCtx)

/-- `f_rn` -/
def fRn (bi : AesBlock) (n : Fin 4) (k : ℕ) : UInt32 :=
  look (ftTab 0) (byte (bi.get n) 0) ^^^ look (ftTab 1) (byte (bi.get (n + 1)) 1) ^^^
    look (ftTab 2) (byte (bi.get (n + 2)) 2) ^^^ look (ftTab 3) (byte (bi.get (n + 3)) 3) ^^^
    ctx.eKey (k + n)

/-- `f_rl` -/
def fRl (bi : AesBlock) (n : Fin 4) (k : ℕ) : UInt32 :=
  look (flTab 0) (byte (bi.get n) 0) ^^^ look (flTab 1) (byte (bi.get (n + 1)) 1) ^^^
    look (flTab 2) (byte (bi.get (n + 2)) 2) ^^^ look (flTab 3) (byte (bi.get (n + 3)) 3) ^^^
    ctx.eKey (k + n)

/-- `i_rn` -/
def iRn (bi : AesBlock) (n : Fin 4) (k : ℕ) : UInt32 :=
  look (itTab 0) (byte (bi.get n) 0) ^^^ look (itTab 1) (byte (bi.get (n + 3)) 1) ^^^
    look (itTab 2) (byte (bi.get (n + 2)) 2) ^^^ look (itTab 3) (byte (bi.get (n + 1)) 3) ^^^
    ctx.dKey (k + n)

/-- `i_rl` -/
def iRl (bi : AesBlock) (n : Fin 4) (k : ℕ) : UInt32 :=
  look (ilTab 0) (byte (bi.get n) 0) ^^^ look (ilTab 1) (byte (bi.get (n + 3)) 1) ^^^
    look (ilTab 2) (byte (bi.get (n + 2)) 2) ^^^ look (ilTab 3) (byte (bi.get (n + 1)) 3) ^^^
    ctx.dKey (k + n)

/-- `f_nround`: the block and `kp`. -/
def fNround (c : AesBlock × ℕ) : AesBlock × ℕ :=
  (AesBlock.ofFn fun n => fRn ctx c.1 n c.2, c.2 + 4)

/-- `f_lround` -/
def fLround (c : AesBlock × ℕ) : AesBlock := AesBlock.ofFn fun n => fRl ctx c.1 n c.2

/-- `i_nround`: the block and `kp`. -/
def iNround (c : AesBlock × ℕ) : AesBlock × ℕ :=
  (AesBlock.ofFn fun n => iRn ctx c.1 n c.2, c.2 - 4)

/-- `i_lround` -/
def iLround (c : AesBlock × ℕ) : AesBlock := AesBlock.ofFn fun n => iRl ctx c.1 n c.2

/-- The four `u32_out`. -/
def u32Out (b : AesBlock) : List UInt8 := (List.finRange 4).flatMap fun n => le32 (b.get n)

/-- `aes_encrypt` -/
def aesEncrypt (input : List UInt8) : List UInt8 :=
  let c := (AesBlock.ofFn fun n => u32In input (4 * n) ^^^ ctx.eKey n, 4)
  let c := if 24 < ctx.keyLength then fNround ctx (fNround ctx c) else c
  let c := if 16 < ctx.keyLength then fNround ctx (fNround ctx c) else c
  u32Out (fLround ctx ((fNround ctx)^[9] c))

/-- `aes_decrypt` -/
def aesDecrypt (input : List UInt8) : List UInt8 :=
  let keyLen := ctx.keyLength
  let c := (AesBlock.ofFn fun n => u32In input (4 * n) ^^^ ctx.eKey (keyLen + 24 + n), keyLen + 20)
  let c := if 24 < keyLen then iNround ctx (iNround ctx c) else c
  let c := if 16 < keyLen then iNround ctx (iNround ctx c) else c
  u32Out (iLround ctx ((iNround ctx)^[9] c))

end

end Rtl8187
