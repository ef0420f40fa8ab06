/-
# AES is Rijndael

The block functions of `aes.c` against the cipher they stand for. The words of a
context are columns; `aes_set_key` fills `E` with the key schedule and `D` with its
words unmixed (`aesSetKey_expanded`), a round by table look-ups is a round of the
layers (`block_fNround`), and a decryption runs the equivalent inverse.

Key definitions: `Aes.block`, `AesCtx.Expanded`.
Key theorems: `aesSetKey_expanded`, `aes_encrypts`, `aes_decrypts`.
-/
import Rtl8187.AesTables
import Rtl8187.Lib.Run
import Mathlib.Tactic.Set

namespace Rtl8187

open Bytes Words Rijndael

namespace Aes

/-! ### The key schedule -/

theorem byteOf_rcoTab : ∀ i < 10, ∀ r : Fin 4, byteOf (rcoTab.getD i 0) r = rcon (i + 1) r := by
  decide +kernel

theorem byteOf_u32In (d : List UInt8) (j : ℕ) : byteOf (u32In d (4 * j)) = wordAt d j := by
  funext r
  rw [u32In, byteOf_ofBytes4]
  match r with
  | 0 | 1 | 2 | 3 => rfl

section

variable (key : List UInt8) (nk : ℕ)

/-- The words of the schedule. -/
def word (j : ℕ) : Col := keyWord nk (wordAt key) j

variable {key nk}

theorem word_lt {j : ℕ} (h : j < nk) : word key nk j = wordAt key j := by
  rw [word, keyWord_lt _ h]

theorem word_ge {j : ℕ} (h0 : 0 < nk) (h : nk ≤ j) : word key nk j =
    fun r => word key nk (j - nk) r ^^^ scheduleTemp nk j (word key nk (j - 1)) r := by
  rw [word, keyWord_ge _ h0 h]
  rfl

variable (key nk)

/-- The first `n` words are in `E`. -/
def Filled (n : ℕ) (w : AesWords) : Prop := ∀ j < n, byteOf (w.get j) = word key nk j

/-- The first `n` words are in `E`, the last of them in `t`. -/
structure Done (n : ℕ) (c : UInt32 × AesWords) : Prop where
  filled : Filled key nk n c.2
  t : byteOf c.1 = word key nk (n - 1)

/-- `t` is what word `n` adds to the word a key length back. -/
structure Ready (n : ℕ) (c : UInt32 × AesWords) : Prop where
  filled : Filled key nk n c.2
  t : byteOf c.1 = scheduleTemp nk n (word key nk (n - 1))

variable {key nk}

theorem Filled.put {n : ℕ} {w : AesWords} (h : Filled key nk n w) (hn : n < 120) {v : UInt32}
    (hv : byteOf v = word key nk n) : Filled key nk (n + 1) (w.put n v) := by
  intro j hj
  rw [w.get_put hn]
  by_cases hjn : j = n
  · rw [if_pos hjn, hjn, hv]
  · rw [if_neg hjn]
    exact h j (by omega)

/-- A link of the chain makes the next word. -/
theorem Ready.chain {k : ℕ} {c : UInt32 × AesWords} (h : Ready key nk (k + nk) c) (h0 : 0 < nk)
    (hk : k + nk < 120) : Done key nk (k + nk + 1) (chain nk c k) := by
  have hv : byteOf (c.1 ^^^ c.2.get k) = word key nk (k + nk) := by
    funext r
    rw [byteOf_xor, h.t, h.filled k (by omega), word_ge h0 (Nat.le_add_left nk k),
      Nat.add_sub_cancel, UInt8.xor_comm]
  exact ⟨h.filled.put hk hv, hv⟩

theorem Done.plain {n : ℕ} {c : UInt32 × AesWords} (h : Done key nk n c) (h1 : n % nk ≠ 0)
    (h2 : ¬ (6 < nk ∧ n % nk = 4)) : Ready key nk n c :=
  ⟨h.filled, by rw [h.t, scheduleTemp, if_neg h1, if_neg h2]⟩

/-- The turn at the start of a group. -/
theorem Done.turn {i : ℕ} {c : UInt32 × AesWords} (h : Done key nk (nk * (i + 1)) c) (h0 : 0 < nk)
    (hi : i < 10) : Ready key nk (nk * (i + 1)) (turnBox i c.1, c.2) := by
  refine ⟨h.filled, ?_⟩
  funext r
  have hrot : byteOf (genericRotr32 c.1 8) = rotWord (byteOf c.1) := funext fun r =>
    byteOf_rotr c.1 1 r (by decide)
  rw [turnBox, byteOf_xor, byteOf_lsBox, hrot, h.t, byteOf_rcoTab i hi, scheduleTemp,
    if_pos (Nat.mul_mod_right nk (i + 1)), Nat.mul_div_cancel_left _ h0]

/-- The substitution in the middle of a group of eight. -/
theorem Done.middle {i : ℕ} {c : UInt32 × AesWords} (h : Done key 8 (8 * i + 4) c) :
    Ready key 8 (8 * i + 4) (lsBox c.1, c.2) := by
  refine ⟨h.filled, ?_⟩
  funext r
  have h1 : (8 * i + 4) % 8 ≠ 0 := by omega
  have h2 : 6 < 8 ∧ (8 * i + 4) % 8 = 4 := by omega
  rw [byteOf_lsBox, h.t, scheduleTemp, if_neg h1, if_pos h2]

/-- A run of links after the first, no word of which is special. -/
theorem Done.links {k m : ℕ} {c : UInt32 × AesWords} (h : Done key nk (k + nk) c) (h0 : 0 < nk)
    (hk : k + nk + m ≤ 120)
    (hplain : ∀ j < m, (k + j + nk) % nk ≠ 0 ∧ ¬ (6 < nk ∧ (k + j + nk) % nk = 4)) :
    Done key nk (k + nk + m) ((List.range' k m).foldl (Aes.chain nk) c) := by
  have hstep := @Run.inv_count (UInt32 × AesWords) (Aes.chain nk)
    (fun i c => Done key nk (i + nk) c) k m c h fun i hi him c hc => by
      obtain ⟨h1, h2⟩ := hplain (i - k) (by omega)
      have hi' : k + (i - k) = i := by omega
      rw [hi'] at h1 h2
      have hd := (hc.plain h1 h2).chain h0 (by omega)
      rwa [Nat.add_right_comm] at hd
  rwa [Nat.add_right_comm] at hstep

/-- A group: the turn, then the links. -/
theorem Done.group {i m : ℕ} {c : UInt32 × AesWords} (h : Done key nk (nk * (i + 1)) c) (hm : m < nk)
    (hi : i < 10) (hlen : nk * (i + 1) + m + 1 ≤ 120) (hm4 : 6 < nk → m < 4) :
    Done key nk (nk * (i + 1) + m + 1)
      ((List.range' (nk * i) (m + 1)).foldl (Aes.chain nk) (turnBox i c.1, c.2)) := by
  have h0 : 0 < nk := by omega
  have hmul : nk * (i + 1) = nk * i + nk := Nat.mul_succ nk i
  have hfirst := h.turn h0 hi
  rw [hmul] at hfirst hlen ⊢
  have hd := hfirst.chain h0 (by omega)
  have hmod : ∀ j < m, (nk * i + 1 + j + nk) % nk = 1 + j := by
    intro j hj
    rw [Nat.add_mod_right, Nat.add_assoc, Nat.mul_add_mod]
    exact Nat.mod_eq_of_lt (by omega)
  rw [Nat.add_right_comm] at hd
  have hlinks := @Done.links key nk (nk * i + 1) m _ hd h0 (by omega) fun j hj => by
    rw [hmod j hj]
    omega
  rw [List.range'_succ, List.foldl_cons]
  have hidx : nk * i + nk + m + 1 = nk * i + 1 + nk + m := by omega
  rwa [hidx]

end

theorem loop4_done {key : List UInt8} {i : ℕ} {c : UInt32 × AesWords} (h : Done key 4 (4 * (i + 1)) c)
    (hi : i < 10) : Done key 4 (4 * (i + 1 + 1)) (loop4 c i) :=
  @Done.group key 4 i 3 c h (by decide) hi (by omega) (by omega)

theorem loop6_done {key : List UInt8} {i : ℕ} {c : UInt32 × AesWords} (h : Done key 6 (6 * (i + 1)) c)
    (hi : i < 8) : Done key 6 (6 * (i + 1 + 1)) (loop6 c i) :=
  @Done.group key 6 i 5 c h (by decide) (by omega) (by omega) (by omega)

/-- The four links, the substitution, the link it makes and three more. -/
theorem loop8_done {key : List UInt8} {i : ℕ} {c : UInt32 × AesWords} (h : Done key 8 (8 * (i + 1)) c)
    (hi : i < 7) : Done key 8 (8 * (i + 1 + 1)) (loop8 c i) := by
  have hfour := @Done.group key 8 i 3 c h (by decide) (by omega) (by omega) (by omega)
  set d := (List.range' (8 * i) (3 + 1)).foldl (Aes.chain 8) (turnBox i c.1, c.2) with hd
  have hmiddle : Ready key 8 (8 * i + 4 + 8) (lsBox d.1, d.2) :=
    @Done.middle key (i + 1) d hfour
  have hlink := hmiddle.chain (by decide) (by omega)
  have hthree := @Done.links key 8 (8 * i + 5) 3 _ hlink (by decide) (by omega) fun j hj => by omega
  have hloop : loop8 c i = [8 * i + 5, 8 * i + 6, 8 * i + 7].foldl (Aes.chain 8)
      (Aes.chain 8 (lsBox d.1, d.2) (8 * i + 4)) := by
    rw [Aes.chain, UInt32.xor_comm, hd]
    rfl
  rw [hloop]
  exact hthree

/-- The key in the first words. -/
theorem keyWords_filled (key : List UInt8) (w : AesWords) {nk : ℕ} (h : nk ≤ 120) :
    Filled key nk nk (keyWords key w nk) := by
  have hcount := @Run.inv_count AesWords (fun w i => w.put i (u32In key (4 * i)))
    (fun i w => Filled key nk i w) 0 nk w (fun j hj => absurd hj (Nat.not_lt_zero j))
    fun i _ hi w hw => hw.put (by omega) (by rw [byteOf_u32In, word_lt (by omega)])
  rw [Nat.zero_add] at hcount
  rwa [keyWords, List.range_eq_range']

/-- `E` after the loops, for each length of the key. -/
theorem expandE_filled {key : List UInt8} (w : AesWords)
    (hkey : key.length = 16 ∨ key.length = 24 ∨ key.length = 32) :
    Filled key (key.length / 4) (key.length + 28) (expandE key w) := by
  have hstart : ∀ {nk : ℕ}, 0 < nk → nk ≤ 120 →
      Done key nk (nk * (0 + 1)) ((keyWords key w nk).get (nk - 1), keyWords key w nk) := by
    intro nk h0 h
    have hfilled := keyWords_filled key w h
    rw [Nat.zero_add, Nat.mul_one]
    exact ⟨hfilled, hfilled (nk - 1) (by omega)⟩
  rcases hkey with h | h | h
  · have hloops := @Run.inv_count _ loop4 (fun i c => Done key 4 (4 * (i + 1)) c) 0 10 _
      (hstart (by decide) (by decide)) fun i _ hi c hc => loop4_done hc (by omega)
    rw [h, expandE, if_pos h, List.range_eq_range']
    exact hloops.filled
  · have hloops := @Run.inv_count _ loop6 (fun i c => Done key 6 (6 * (i + 1)) c) 0 8 _
      (hstart (by decide) (by decide)) fun i _ hi c hc => loop6_done hc (by omega)
    rw [h, expandE, if_neg (by omega), if_pos h, List.range_eq_range']
    exact fun j hj => hloops.filled j (by omega)
  · have hloops := @Run.inv_count _ loop8 (fun i c => Done key 8 (8 * (i + 1)) c) 0 7 _
      (hstart (by decide) (by decide)) fun i _ hi c hc => loop8_done hc (by omega)
    rw [h, expandE, if_neg (by omega), if_neg (by omega), List.range_eq_range']
    exact fun j hj => hloops.filled j (by omega)

end Aes

open Aes

/-- A context with the schedule of a key: `E` the words, `D` the words unmixed but
for the first four. -/
structure AesCtx.Expanded (key : List UInt8) (ctx : AesCtx) : Prop where
  keyLength : ctx.keyLength = key.length
  e : ∀ j < key.length + 28, byteOf (ctx.eKey j) = word key (key.length / 4) j
  dFirst : ∀ j < 4, byteOf (ctx.dKey j) = word key (key.length / 4) j
  d : ∀ j, 4 ≤ j → j < key.length + 24 →
    byteOf (ctx.dKey j) = invMixColumn (word key (key.length / 4) j)

section

variable {key : List UInt8} {nk n : ℕ}

/-- What the two loops over `D` have done when they reach word `i`. -/
structure Unmixed (key : List UInt8) (nk n i : ℕ) (w : AesWords) : Prop where
  filled : Filled key nk n w
  first : ∀ j < 4, j < i → byteOf (w.get (60 + j)) = word key nk j
  rest : ∀ j, 4 ≤ j → j < i → byteOf (w.get (60 + j)) = invMixColumn (word key nk j)

theorem Unmixed.put {i : ℕ} {w : AesWords} {v : UInt32} (h : Unmixed key nk n i w) (hn : n ≤ 60)
    (hi : i < 60) (hfirst : i < 4 → byteOf v = word key nk i)
    (hrest : 4 ≤ i → byteOf v = invMixColumn (word key nk i)) :
    Unmixed key nk n (i + 1) (w.put (60 + i) v) := by
  have hlt : 60 + i < 120 := by omega
  refine ⟨fun j hj => ?_, fun j hj hji => ?_, fun j hj hji => ?_⟩
  · rw [w.get_put hlt, if_neg (by omega)]
    exact h.filled j hj
  · rw [w.get_put hlt]
    by_cases heq : j = i
    · rw [if_pos (by omega), heq, hfirst (by omega)]
    · rw [if_neg (by omega)]
      exact h.first j hj (by omega)
  · rw [w.get_put hlt]
    by_cases heq : j = i
    · rw [if_pos (by omega), heq, hrest (by omega)]
    · rw [if_neg (by omega)]
      exact h.rest j hj (by omega)

end

/-- What the longest key writes past `E` is in the words of `D` written last. -/
theorem expandD_unmixed {key : List UInt8} {nk n keyLen : ℕ} {w : AesWords} (hn : n ≤ 60)
    (hlen : keyLen + 24 ≤ n) (h : Filled key nk n w) :
    Unmixed key nk n (keyLen + 24) (expandD keyLen w) := by
  have hcopy : Unmixed key nk n (0 + 4)
      ((List.range' 0 4).foldl (fun w i => w.put (60 + i) (w.get i)) w) :=
    @Run.inv_count AesWords _ (Unmixed key nk n) 0 4 w
      ⟨h, fun _ _ hj => absurd hj (Nat.not_lt_zero _), fun _ _ hj => absurd hj (Nat.not_lt_zero _)⟩
      fun i _ hi w hw => hw.put hn (by omega) (fun _ => hw.filled i (by omega)) (by omega)
  have hunmix : Unmixed key nk n (4 + (keyLen + 20)) ((List.range' 4 (keyLen + 20)).foldl
      (fun w i => w.put (60 + i) (imixCol (w.get i)))
      ((List.range' 0 4).foldl (fun w i => w.put (60 + i) (w.get i)) w)) :=
    @Run.inv_count AesWords _ (Unmixed key nk n) 4 (keyLen + 20) _ hcopy
      fun i h4 hi w hw => hw.put hn (by omega) (by omega) fun _ => by
        funext r
        rw [byteOf_imixCol, hw.filled i (by omega)]
  have hidx : 4 + (keyLen + 20) = keyLen + 24 := by omega
  rwa [hidx, ← List.range_eq_range'] at hunmix

theorem Unmixed.expanded {key : List UInt8} {w : AesWords}
    (h : Unmixed key (key.length / 4) (key.length + 28) (key.length + 24) w) :
    (AesCtx.mk key.length w).Expanded key :=
  ⟨rfl, h.filled, fun j hj => h.first j hj (by omega), h.rest⟩

/-- `aes_set_key` fills a context with the schedule, whatever the context held. -/
theorem aesSetKey_expanded (ctx : AesCtx) {key : List UInt8} (flags : UInt32)
    (hkey : key.length = 16 ∨ key.length = 24 ∨ key.length = 32) :
    ∃ ctx', aesSetKey ctx key flags = (0, flags, ctx') ∧ ctx'.Expanded key := by
  have hfilled := expandE_filled ctx.words hkey
  refine ⟨_, if_neg ?_, (expandD_unmixed (by omega) (by omega) hfilled).expanded⟩
  rintro ⟨h16, h24, h32⟩
  rcases hkey with h | h | h
  · exact h16 h
  · exact h24 h
  · exact h32 h

/-! ### Rounds -/

namespace Aes

/-- The columns of a block of words. -/
def block (b : AesBlock) : Block := fun c => byteOf (b.get c)

/-- The columns of the four key words at `k`. -/
def keyBlock (w : ℕ → UInt32) (k : ℕ) : Block := fun c => byteOf (w (k + c))

theorem u32Out_eq (b : AesBlock) : u32Out b = toBytes (block b) := rfl

variable {ctx : AesCtx}

/-- A round by table look-ups is a round of the layers. -/
theorem block_fNround (c : AesBlock × ℕ) :
    block (fNround ctx c).1 = layers.round (block c.1) (keyBlock ctx.eKey c.2) := by
  funext n r
  have h0 : n + 0 = n := Fin.add_zero n
  have hcol := ft_column (fun q => byteOf (c.1.get (n + q)) q) r
  rw [h0] at hcol
  show byteOf ((AesBlock.ofFn fun n => fRn ctx c.1 n c.2).get n) r =
    mixColumn (subWord fun q => byteOf (c.1.get (n + q)) q) r ^^^ byteOf (ctx.eKey (c.2 + n)) r
  rw [AesBlock.get_ofFn, ← hcol, ← byteOf_xor]
  simp only [fRn, byte_eq]

theorem block_fLround (c : AesBlock × ℕ) :
    block (fLround ctx c) = layers.lastRound (block c.1) (keyBlock ctx.eKey c.2) := by
  funext n r
  have h0 : n + 0 = n := Fin.add_zero n
  have hcol := fl_column (fun q => byteOf (c.1.get (n + q)) q) r
  rw [h0] at hcol
  show byteOf ((AesBlock.ofFn fun n => fRl ctx c.1 n c.2).get n) r =
    subWord (fun q => byteOf (c.1.get (n + q)) q) r ^^^ byteOf (ctx.eKey (c.2 + n)) r
  rw [AesBlock.get_ofFn, ← hcol, ← byteOf_xor]
  simp only [fRl, byte_eq]

theorem sub_place : ∀ n : Fin 4, n - 0 = n ∧ n - 1 = n + 3 ∧ n - 2 = n + 2 ∧ n - 3 = n + 1 := by decide

/-- A round of the decryption is a round of the equivalent inverse. -/
theorem block_iNround (c : AesBlock × ℕ) :
    block (iNround ctx c).1 = layers.eqRound (block c.1) (keyBlock ctx.dKey c.2) := by
  funext n r
  obtain ⟨h0, h1, h2, h3⟩ := sub_place n
  have hcol := it_column (fun q => byteOf (c.1.get (n - q)) q) r
  rw [h0, h1, h2, h3] at hcol
  show byteOf ((AesBlock.ofFn fun n => iRn ctx c.1 n c.2).get n) r =
    invMixColumn (fun q => invSbox (byteOf (c.1.get (n - q)) q)) r ^^^ byteOf (ctx.dKey (c.2 + n)) r
  rw [AesBlock.get_ofFn, ← hcol, ← byteOf_xor]
  simp only [iRn, byte_eq]

theorem block_iLround (c : AesBlock × ℕ) :
    block (iLround ctx c) = layers.eqLastRound (block c.1) (keyBlock ctx.dKey c.2) := by
  funext n r
  obtain ⟨h0, h1, h2, h3⟩ := sub_place n
  have hcol := il_column (fun q => byteOf (c.1.get (n - q)) q) r
  rw [h0, h1, h2, h3] at hcol
  show byteOf ((AesBlock.ofFn fun n => iRl ctx c.1 n c.2).get n) r =
    invSbox (byteOf (c.1.get (n - r)) r) ^^^ byteOf (ctx.dKey (c.2 + n)) r
  rw [AesBlock.get_ofFn, ← hcol, ← byteOf_xor]
  simp only [iRl, byte_eq]

/-- The rounds before the last, whose keys lie one after the other. -/
theorem block_fNrounds (c : AesBlock × ℕ) : ∀ m : ℕ,
    block ((fNround ctx)^[m] c).1 =
      ((List.range m).map fun j => keyBlock ctx.eKey (c.2 + 4 * j)).foldl layers.round (block c.1) ∧
    ((fNround ctx)^[m] c).2 = c.2 + 4 * m
  | 0 => ⟨rfl, rfl⟩
  | m + 1 => by
    obtain ⟨ih, hk⟩ := block_fNrounds c m
    rw [Function.iterate_succ_apply', List.range_succ, List.map_append, List.foldl_append,
      block_fNround, ih, hk]
    exact ⟨rfl, congrArg (· + 4) hk⟩

/-- In the decryption they are read backwards. -/
theorem block_iNrounds (c : AesBlock × ℕ) : ∀ m : ℕ,
    block ((iNround ctx)^[m] c).1 =
      ((List.range m).map fun j => keyBlock ctx.dKey (c.2 - 4 * j)).foldl layers.eqRound (block c.1) ∧
    ((iNround ctx)^[m] c).2 = c.2 - 4 * m
  | 0 => ⟨rfl, rfl⟩
  | m + 1 => by
    obtain ⟨ih, hk⟩ := block_iNrounds c m
    have hsub : c.2 - 4 * m - 4 = c.2 - 4 * (m + 1) := by omega
    rw [Function.iterate_succ_apply', List.range_succ, List.map_append, List.foldl_append,
      block_iNround, ih, hk]
    exact ⟨rfl, (congrArg (· - 4) hk).trans hsub⟩

theorem block_start (input : List UInt8) (k : ℕ) :
    block (AesBlock.ofFn fun n => u32In input (4 * n) ^^^ ctx.eKey (k + n)) =
      layers.add (ofBytes input) (keyBlock ctx.eKey k) := by
  funext n r
  show byteOf ((AesBlock.ofFn fun n => u32In input (4 * n) ^^^ ctx.eKey (k + n)).get n) r =
    wordAt input n r ^^^ byteOf (ctx.eKey (k + n)) r
  rw [AesBlock.get_ofFn, byteOf_xor, byteOf_u32In]

end Aes

/-! ### The block functions -/

section

variable {ctx : AesCtx} {key : List UInt8}

theorem AesCtx.Expanded.keyBlock_e (h : ctx.Expanded key) {j : ℕ} (hj : j ≤ key.length / 4 + 6) :
    keyBlock ctx.eKey (4 * j) = roundKey (word key (key.length / 4)) j :=
  funext fun c => h.e (4 * j + c) (by omega)

theorem AesCtx.Expanded.keyBlock_d (h : ctx.Expanded key) {j : ℕ} (h1 : 1 ≤ j)
    (hj : j < key.length / 4 + 6) :
    keyBlock ctx.dKey (4 * j) = layers.mix.symm (roundKey (word key (key.length / 4)) j) :=
  funext fun c => h.d (4 * j + c) (by omega) (by omega)

theorem AesCtx.Expanded.keyBlock_d_zero (h : ctx.Expanded key) :
    keyBlock ctx.dKey 0 = roundKey (word key (key.length / 4)) 0 :=
  funext fun c => by
    have hc := h.dFirst (0 + c) (by omega)
    rw [keyBlock, hc]
    rfl

/-- The calls of `f_nround`, counted. -/
theorem aesEncrypt_rounds (h : ctx.keyLength = 16 ∨ ctx.keyLength = 24 ∨ ctx.keyLength = 32)
    (input : List UInt8) : aesEncrypt ctx input = u32Out (fLround ctx
      ((fNround ctx)^[ctx.keyLength / 4 + 5]
        (AesBlock.ofFn fun n => u32In input (4 * n) ^^^ ctx.eKey (0 + n), 4))) := by
  simp only [Nat.zero_add]
  rcases h with h | h | h <;> rw [aesEncrypt, h] <;> rfl

theorem aesDecrypt_rounds (h : ctx.keyLength = 16 ∨ ctx.keyLength = 24 ∨ ctx.keyLength = 32)
    (input : List UInt8) : aesDecrypt ctx input = u32Out (iLround ctx
      ((iNround ctx)^[ctx.keyLength / 4 + 5]
        (AesBlock.ofFn fun n => u32In input (4 * n) ^^^ ctx.eKey (ctx.keyLength + 24 + n),
          ctx.keyLength + 20))) := by
  rcases h with h | h | h <;> rw [aesDecrypt, h] <;> rfl

/-- On a context with the schedule of a key, `aes_encrypt` is the cipher. -/
theorem AesCtx.Expanded.encrypt (h : ctx.Expanded key)
    (hkey : key.length = 16 ∨ key.length = 24 ∨ key.length = 32) (input : List UInt8) :
    aesEncrypt ctx input = cipher key input := by
  set c : AesBlock × ℕ := (AesBlock.ofFn fun n => u32In input (4 * n) ^^^ ctx.eKey (0 + n), 4) with hc
  obtain ⟨hrounds, hk⟩ := @block_fNrounds ctx c (key.length / 4 + 5)
  have hmid : ((List.range (key.length / 4 + 5)).map fun j => keyBlock ctx.eKey (c.2 + 4 * j)) =
      (List.range (key.length / 4 + 5)).map fun j => roundKey (word key (key.length / 4)) (j + 1) := by
    apply List.map_congr_left
    intro j hj
    have hlt := List.mem_range.mp hj
    rw [← h.keyBlock_e (by omega), Nat.mul_succ, Nat.add_comm]
  have hlast : keyBlock ctx.eKey (4 + 4 * (key.length / 4 + 5)) =
      roundKey (word key (key.length / 4)) (key.length / 4 + 6) := by
    rw [← h.keyBlock_e (Nat.le_refl _)]
    congr 1
    omega
  have hfirst := h.keyBlock_e (Nat.zero_le (key.length / 4 + 6))
  rw [aesEncrypt_rounds (h.keyLength ▸ hkey), h.keyLength, ← hc, u32Out_eq, block_fLround, hrounds,
    hk, hmid, hlast, hc, block_start, hfirst]
  rfl

/-- `aes_decrypt` is the inverse cipher. -/
theorem AesCtx.Expanded.decrypt (h : ctx.Expanded key)
    (hkey : key.length = 16 ∨ key.length = 24 ∨ key.length = 32) (input : List UInt8) :
    aesDecrypt ctx input = invCipher key input := by
  set c : AesBlock × ℕ := (AesBlock.ofFn fun n => u32In input (4 * n) ^^^
    ctx.eKey (key.length + 24 + n), key.length + 20) with hc
  obtain ⟨hrounds, hk⟩ := @block_iNrounds ctx c (key.length / 4 + 5)
  have hmid : ((List.range (key.length / 4 + 5)).map fun j => keyBlock ctx.dKey (c.2 - 4 * j)) =
      (layers.eqKeys (keysOf key)).mid := by
    apply List.ext_getElem
    · simp [RoundCipher.Layers.eqKeys, keysOf, cipherKeys]
    intro j hj hj'
    have hlt : j < key.length / 4 + 5 := by simpa using hj
    have hidx : key.length + 20 - 4 * j = 4 * (key.length / 4 + 5 - 1 - j + 1) := by omega
    have hkeys : (layers.eqKeys (keysOf key)).mid[j] =
        layers.mix.symm (roundKey (word key (key.length / 4)) (key.length / 4 + 5 - 1 - j + 1)) := by
      simp only [RoundCipher.Layers.eqKeys, keysOf, cipherKeys, List.getElem_map, List.getElem_reverse,
        List.getElem_range, List.length_map, List.length_range]
      rfl
    rw [hkeys, List.getElem_map, List.getElem_range, ← h.keyBlock_d (by omega) (by omega)]
    exact congrArg _ hidx
  have hlast : keyBlock ctx.dKey (key.length + 20 - 4 * (key.length / 4 + 5)) =
      roundKey (word key (key.length / 4)) 0 := by
    have hzero : key.length + 20 - 4 * (key.length / 4 + 5) = 0 := by omega
    rw [hzero, h.keyBlock_d_zero]
  have hfirst : keyBlock ctx.eKey (key.length + 24) =
      roundKey (word key (key.length / 4)) (key.length / 4 + 6) := by
    rw [← h.keyBlock_e (Nat.le_refl _)]
    congr 1
    omega
  rw [aesDecrypt_rounds (h.keyLength ▸ hkey), h.keyLength, ← hc, u32Out_eq, block_iLround, hrounds,
    hk, hmid, hlast, hc, block_start, hfirst, invCipher, ← RoundCipher.Layers.eqDecrypt_eqKeys]
  rfl

end

/-- **AES encrypts as Rijndael.** Whatever the context held, a key of 16, 24 or 32 bytes
is accepted and a block is then encrypted as the cipher does; any other key is refused
and leaves the context. -/
theorem aes_encrypts (ctx : AesCtx) (key : List UInt8) (flags : UInt32) :
    let valid := key.length = 16 ∨ key.length = 24 ∨ key.length = 32
    (valid → ∃ ctx', aesSetKey ctx key flags = (0, flags, ctx') ∧
      ∀ input, aesEncrypt ctx' input = cipher key input) ∧
    (¬ valid → aesSetKey ctx key flags = (-22, flags ||| tfmResBadKeyLen, ctx)) := by
  refine ⟨fun hkey => ?_, fun hkey => ?_⟩
  · obtain ⟨ctx', hset, hexp⟩ := aesSetKey_expanded ctx flags hkey
    exact ⟨ctx', hset, hexp.encrypt hkey⟩
  · rw [aesSetKey, if_pos]
    exact ⟨fun h => hkey (Or.inl h), fun h => hkey (Or.inr (Or.inl h)),
      fun h => hkey (Or.inr (Or.inr h))⟩

/-- **AES decrypts what it encrypts**, by the inverse cipher: the straight one, though it
computes the equivalent one on unmixed keys. -/
theorem aes_decrypts (ctx : AesCtx) {key : List UInt8} (flags : UInt32)
    (hkey : key.length = 16 ∨ key.length = 24 ∨ key.length = 32) :
    let ctx' := (aesSetKey ctx key flags).2.2
    (∀ input, aesDecrypt ctx' input = invCipher key input) ∧
    ∀ input, input.length = 16 → aesDecrypt ctx' (aesEncrypt ctx' input) = input := by
  obtain ⟨ctx', hset, hexp⟩ := aesSetKey_expanded ctx flags hkey
  intro ctx''
  have hctx : ctx'' = ctx' := congrArg (·.2.2) hset
  rw [hctx]
  refine ⟨hexp.decrypt hkey, fun input hinput => ?_⟩
  rw [hexp.encrypt hkey, hexp.decrypt hkey, invCipher_cipher key hinput]

/-- Under a key of 24 bytes. -/
theorem aes_decrypts_counted :
    let ctx' := (aesSetKey ⟨0, ⟨List.replicate 120 0, rfl⟩⟩ (counted 24) 0).2.2
    (∀ input, aesDecrypt ctx' input = invCipher (counted 24) input) ∧
    ∀ input, input.length = 16 → aesDecrypt ctx' (aesEncrypt ctx' input) = input :=
  aes_decrypts ⟨0, ⟨List.replicate 120 0, rfl⟩⟩ 0 (Or.inr (Or.inl rfl))

end Rtl8187
