/-
# What the tables of AES hold

The tables `gen_tabs` fills are the operations of the cipher: products by way of
the logarithms are the products of the field, `sbx_tab` and `isb_tab` the
substitution and its inverse, and the words of the four wide tables a substituted
byte with what the mixing of a column makes of it; four look-ups are a column
(`ft_column`, `it_column`).

Key definitions: `LogTables`.
Key theorems: `at8_powTab`, `at8_logTab`, `ffMult_eq`, `sbxTab_sbox`, `isbTab_invSbox`, `ft_column`, `it_column`,
`byteOf_imixCol`.
-/
import Rtl8187.Aes
import Rtl8187.Lib.Rijndael

namespace Rtl8187

open Bytes Words Rijndael

namespace Aes

/-! ### Logarithms -/

/-- The powers of three and the logarithms to base three, each the digits of one number. -/
structure LogTables where
  powers : ℕ
  logs : ℕ
  first : digit powers 0 = 1 ∧ digit powers 255 = 1 ∧ digit logs 1 = 0
  next : ∀ i < 255, digit powers i ^^^ xtimeNat (digit powers i) = digit powers (i + 1)
  log_pow : ∀ j < 255, digit logs (digit powers j) = j
  pow_log : ∀ i < 256, i ≠ 0 → digit logs i < 255 ∧ digit powers (digit logs i) = i

def logTables : LogTables where
  powers := ofRows
    [0xaa66221e0a0602f7a49573d84838e15f3513f8a196722e1aff5533110f050301,
     0xcdb26ed3b868d14fcc443c140c04f55331e6ab9070d9be6a26eb5937e45c34e5,
     0x9a76db49ceb398817fdcbd6bd0b99e838878281808f1a662d74d3be0a967d44c,
     0xa06020e9ae93712fecad92877d2b19fea361d6bb69271d0bf0503010f957c4b5,
     0x75dabf9c742ced5bc040c9473de25ec3413f15fa5632e75dc2b76dd24e3a16fb,
     0x54c543c8b16f25eaaf6523e858c1b69b80898e7adfbc9d827e2aefac64d5ba9f,
     0x0ef351c6423ee3a891868b79de4acf45ca46cbb099772d1b0907f4a563211ffc,
     0x01f652c7b46c241cfda297847cdd4b39170df2a794858a8f8c8d7b29ee5a3612]
  logs := ofRows
    [0xc11c69f8c808714cef818d340ee0046403dfee33681bc74bc61a023201190000,
     0x8eda93354582f01224e10f21058a2f657809c99a72a6e44d6a27b9f9b51dc27d,
     0x1091882298e225b3628b06bf30fddd6638834640f1d25c1394ced036bddb8f96,
     0x57a773f3e5acd44eca5e9f9b150a792bba3d85fa54286b3a421eb6a3c3486e7e,
     0xa051a99cb05fcb59f50b16eb7a75d72ce8ade6e7d5e9ae4f74d6eaf450a858af,
     0x9d2955aa6ca1523b86b160fb5a3ebbccb77b76a42d1f43d8ec49c4176ff60c7f,
     0xabd3f2565d9e2a14476da2413c843953d15b3f37cdcf95bcfcdcbe619087b297,
     0x0770f7c0808c630d18fe31c5deed4a67a5e3997726b87cb4892e2023d9921144]
  first := by decide +kernel
  next := by decide +kernel
  log_pow := by decide +kernel
  pow_log := by decide +kernel

/-- A loop that writes `v i` at `k i`, at different places each time. -/
theorem at8_foldl_set {k : ℕ → ℕ} {v : ℕ → UInt8} {l : List UInt8} : ∀ {n : ℕ},
    (∀ i < n, ∀ j < n, k i = k j → i = j) → (∀ i < n, k i < l.length) → ∀ j < n,
    at8 ((List.range n).foldl (fun t i => t.set (k i) (v i)) l) (k j) = v j
  | 0, _, _, _, hj => absurd hj (Nat.not_lt_zero _)
  | n + 1, hinj, hlen, j, hj => by
    have hlength : ∀ m, ((List.range m).foldl (fun t i => t.set (k i) (v i)) l).length = l.length := by
      intro m
      induction m with
      | zero => rfl
      | succ m ih => rw [List.range_succ, List.foldl_append, List.foldl_cons, List.foldl_nil,
          List.length_set, ih]
    rw [List.range_succ, List.foldl_append, List.foldl_cons, List.foldl_nil, at8,
      List.getD_eq_getElem?_getD, List.getElem?_set]
    by_cases h : k n = k j
    · have hjn := hinj n (Nat.lt_succ_self n) j hj h
      rw [if_pos h, hlength, if_pos (hlen n (Nat.lt_succ_self n)), hjn]
      rfl
    · have hjn : j < n := Nat.lt_of_le_of_ne (Nat.le_of_lt_succ hj) fun hjn => h (by rw [hjn])
      rw [if_neg h, ← List.getD_eq_getElem?_getD]
      exact at8_foldl_set (fun a ha b hb => hinj a (Nat.lt_succ_of_lt ha) b (Nat.lt_succ_of_lt hb))
        (fun a ha => hlen a (Nat.lt_succ_of_lt ha)) j hjn

/-- The value of `p` in turn `i` of the first loop. -/
def powAt : ℕ → UInt8
  | 0 => 1
  | i + 1 => powAt i ^^^ ((powAt i <<< 1) ^^^ reduction (powAt i))

theorem powAt_toNat : ∀ i < 256, (powAt i).toNat = digit logTables.powers i := by
  have hdouble : ∀ p : UInt8, (p <<< 1) ^^^ reduction p = xtime p := forall_byte (by decide +kernel)
  intro i hi
  induction i with
  | zero => exact logTables.first.1.symm
  | succ i ih =>
    rw [powAt, hdouble, UInt8.toNat_xor, xtime_toNat, ih (by omega),
      logTables.next i (by omega)]

/-- The first loop fills its two tables on their own. -/
theorem powLogTabs_eq (n : ℕ) (l l' : List UInt8) : (List.range n).foldl powLogStep (l, l', 1) =
    ((List.range n).foldl (fun t i => t.set i (powAt i)) l,
      (List.range n).foldl (fun t i => t.set (powAt i).toNat (UInt8.ofNat i)) l', powAt n) := by
  induction n with
  | zero => rfl
  | succ n ih =>
    rw [List.range_succ, List.foldl_append, List.foldl_append, List.foldl_append, ih]
    rfl

theorem at8_powTab {i : ℕ} (h : i < 256) : (at8 powTab i).toNat = digit logTables.powers i := by
  have hset : at8 ((List.range 256).foldl (fun t i => t.set i (powAt i)) (List.replicate 256 0)) i = powAt i :=
    @at8_foldl_set (fun i => i) powAt _ 256 (fun _ _ _ _ h => h)
      (fun _ hi => hi.trans_eq List.length_replicate.symm) i h
  rw [powTab, powLogTabs, powLogTabs_eq]
  dsimp only
  rw [hset, powAt_toNat i h]

/-- The last turn, and the store after the loop, write the place that turn 0 wrote. -/
theorem logTab_eq : logTab =
    ((List.range 255).foldl (fun t i => t.set (powAt i).toNat (UInt8.ofNat i)) (List.replicate 256 0)).set 1 0 := by
  have hlast : (powAt 255).toNat = 1 := (powAt_toNat 255 (by decide)).trans logTables.first.2.1
  have hrange : List.range 256 = List.range 255 ++ [255] := List.range_succ
  rw [logTab, powLogTabs, powLogTabs_eq]
  dsimp only
  rw [hrange, List.foldl_append, List.foldl_cons, List.foldl_nil, hlast, List.set_set]

theorem at8_logTab {i : ℕ} (h : i < 256) (h0 : i ≠ 0) : (at8 logTab i).toNat = digit logTables.logs i := by
  have hinj : ∀ j < 255, ∀ k < 255, (powAt j).toNat = (powAt k).toNat → j = k := by
    intro j hj k hk hjk
    rw [powAt_toNat j (by omega), powAt_toNat k (by omega)] at hjk
    rw [← logTables.log_pow j hj, hjk, logTables.log_pow k hk]
  obtain ⟨hlt, hi⟩ := logTables.pow_log i h h0
  have hset := @at8_foldl_set (fun i => (powAt i).toNat) UInt8.ofNat (List.replicate 256 0) 255 hinj
    (fun i _ => (powAt i).toNat_lt.trans_eq List.length_replicate.symm) (digit logTables.logs i) hlt
  rw [powAt_toNat _ (by omega), hi] at hset
  rw [logTab_eq]
  by_cases h1 : i = 1
  · have hzero : ∀ t : List UInt8, at8 (t.set 1 0) 1 = 0 := by
      intro t
      rw [at8, List.getD_eq_getElem?_getD, List.getElem?_set, if_pos rfl]
      split <;> rfl
    rw [h1, hzero]
    exact logTables.first.2.2.symm
  · rw [at8, List.getD_eq_getElem?_getD, List.getElem?_set_ne (Ne.symm h1), ← List.getD_eq_getElem?_getD]
    exact (congrArg UInt8.toNat hset).trans (UInt8.toNat_ofNat_of_lt' (hlt.trans (by decide)))

/-- `f_mult`, on the numbers of bytes: the carry of the sum of the logarithms is added to it. -/
def fMultNat (a b : ℕ) : ℕ :=
  digit logTables.powers ((digit logTables.logs a + digit logTables.logs b) % 256 +
    (digit logTables.logs a + digit logTables.logs b) / 256)

/-- A sum of bytes that wraps is below its first term. -/
theorem add_carry (x y : UInt8) : (x + y).toNat + (if x + y < x then 1 else 0) =
    (x.toNat + y.toNat) % 256 + (x.toNat + y.toNat) / 256 := by
  have hx := x.toNat_lt
  have hy := y.toNat_lt
  by_cases h : x + y < x
  · rw [if_pos h]
    rw [UInt8.lt_iff_toNat_lt, UInt8.toNat_add] at h
    rw [UInt8.toNat_add]
    omega
  · rw [if_neg h]
    rw [UInt8.lt_iff_toNat_lt, UInt8.toNat_add] at h
    rw [UInt8.toNat_add]
    omega

theorem fMult_toNat {a b : UInt8} (ha0 : a ≠ 0) (hb0 : b ≠ 0) :
    (fMult a b).toNat = fMultNat a.toNat b.toNat := by
  have ha := at8_logTab a.toNat_lt fun h => ha0 (UInt8.toNat_inj.mp h)
  have hb := at8_logTab b.toNat_lt fun h => hb0 (UInt8.toNat_inj.mp h)
  have ha' := (at8 logTab a.toNat).toNat_lt
  have hb' := (at8 logTab b.toNat).toNat_lt
  have hcarry := add_carry (at8 logTab a.toNat) (at8 logTab b.toNat)
  rw [fMultNat, ← ha, ← hb, ← hcarry]
  exact at8_powTab (by omega)

theorem ffMult_toNat {a : UInt8} (h : a ≠ 0) (b : UInt8) :
    (ffMult a b).toNat = if b.toNat = 0 then 0 else fMultNat a.toNat b.toNat := by
  rw [ffMult]
  by_cases hb : b = 0
  · rw [if_neg fun hab => hab.2 hb, hb]
    rfl
  · have hb0 : b.toNat ≠ 0 := fun h0 => hb (UInt8.toNat_inj.mp h0)
    rw [if_pos ⟨h, hb⟩, fMult_toNat h hb, if_neg hb0]

/-- The products the tables need, by the sums of logarithms. -/
theorem ffMult_eq (b : UInt8) : ffMult 2 b = gmul 2 b ∧ ffMult 3 b = gmul 3 b ∧
    ffMult 9 b = gmul 9 b ∧ ffMult 11 b = gmul 11 b ∧ ffMult 13 b = gmul 13 b ∧
    ffMult 14 b = gmul 14 b := by
  have hnat : ∀ n < 256, ∀ a ∈ [2, 3, 9, 11, 13, 14],
      (if n = 0 then 0 else fMultNat a n) = gmulLowNat 8 a n := by decide +kernel
  have hmult : ∀ a : UInt8, a ≠ 0 → a.toNat ∈ [2, 3, 9, 11, 13, 14] → ffMult a b = gmul a b := by
    intro a ha hmem
    apply UInt8.toNat_inj.mp
    rw [ffMult_toNat ha, hnat _ b.toNat_lt _ hmem, gmul, gmulLow_toNat]
  exact ⟨hmult 2 (by decide) (by decide), hmult 3 (by decide) (by decide), hmult 9 (by decide) (by decide),
    hmult 11 (by decide) (by decide), hmult 13 (by decide) (by decide), hmult 14 (by decide) (by decide)⟩

/-! ### The substitution -/

/-- The entry of `sbx_tab` the third loop computes. -/
def sbxEntry (i : ℕ) : UInt8 :=
  let p := if i ≠ 0 then at8 powTab (255 - (at8 logTab i).toNat) else 0
  let q := ((p >>> 7) ||| (p <<< 1)) ^^^ ((p >>> 6) ||| (p <<< 2))
  p ^^^ ((0x63 : UInt8) ^^^ q ^^^ ((q >>> 6) ||| (q <<< 2)))

/-- The entry is the substitution: the power at the opposite of the logarithm is the
inverse, and the two rotations of `q` are the four of the affine map. -/
theorem sbxEntry_eq (b : UInt8) : sbxEntry b.toNat = sbox b := by
  have hnat : ∀ n < 256, (if n ≠ 0 then digit logTables.powers (255 - digit logTables.logs n) else 0) =
      digit ginvTable.table n := by decide +kernel
  have hinv : (if b.toNat ≠ 0 then at8 powTab (255 - (at8 logTab b.toNat).toNat) else 0) = ginv b := by
    apply UInt8.toNat_inj.mp
    rw [ginv_eq, ← hnat _ b.toNat_lt]
    split
    · next h0 => rw [at8_powTab (by omega), at8_logTab b.toNat_lt h0]
    · rfl
  have haff : ∀ p : UInt8, p ^^^ ((0x63 : UInt8) ^^^ (((p >>> 7) ||| (p <<< 1)) ^^^ ((p >>> 6) ||| (p <<< 2))) ^^^
      (((((p >>> 7) ||| (p <<< 1)) ^^^ ((p >>> 6) ||| (p <<< 2))) >>> 6) |||
        ((((p >>> 7) ||| (p <<< 1)) ^^^ ((p >>> 6) ||| (p <<< 2))) <<< 2))) = affine p :=
    forall_byte (by decide +kernel)
  rw [sbxEntry, hinv, haff, sbox]

/-- The two tables of the third loop, one at a time. -/
theorem sbxTabs_eq : ∀ (is : List ℕ) (c : List UInt8 × List UInt8), is.foldl sbxStep c =
    (is.foldl (fun t i => t.set i (sbxEntry i)) c.1,
      is.foldl (fun t i => t.set (sbxEntry i).toNat (UInt8.ofNat i)) c.2)
  | [], _ => rfl
  | _ :: is, _ => sbxTabs_eq is _

theorem sbxTab_sbox (b : UInt8) : at8 sbxTab b.toNat = sbox b := by
  have h : at8 ((List.range 256).foldl (fun t i => t.set i (sbxEntry i)) (List.replicate 256 0))
      b.toNat = sbxEntry b.toNat :=
    @at8_foldl_set (fun i => i) sbxEntry _ 256 (fun _ _ _ _ h => h)
      (fun _ hi => hi.trans_eq List.length_replicate.symm) b.toNat b.toNat_lt
  rw [sbxTab, sbxTabs, sbxTabs_eq]
  dsimp only
  rw [h, sbxEntry_eq]

/-- What is written at the substitution of a byte stays, as no other byte has it. -/
theorem isbTab_sbox (b : UInt8) : at8 isbTab (sbox b).toNat = b := by
  have hentry : ∀ i < 256, sbxEntry i = sbox (UInt8.ofNat i) := by
    intro i hi
    have h := sbxEntry_eq (UInt8.ofNat i)
    rwa [UInt8.toNat_ofNat_of_lt' hi] at h
  have hinj : ∀ i < 256, ∀ j < 256, (sbxEntry i).toNat = (sbxEntry j).toNat → i = j := by
    intro i hi j hj h
    have hs : sbox (UInt8.ofNat i) = sbox (UInt8.ofNat j) := by
      rw [← hentry i hi, ← hentry j hj]
      exact UInt8.toNat_inj.mp h
    have hb : UInt8.ofNat i = UInt8.ofNat j := by
      rw [← invSbox_sbox (UInt8.ofNat i), hs, invSbox_sbox]
    rw [← UInt8.toNat_ofNat_of_lt' hi, hb, UInt8.toNat_ofNat_of_lt' hj]
  have h : at8 ((List.range 256).foldl (fun t i => t.set (sbxEntry i).toNat (UInt8.ofNat i))
      (List.replicate 256 0)) (sbxEntry b.toNat).toNat = UInt8.ofNat b.toNat :=
    @at8_foldl_set (fun i => (sbxEntry i).toNat) UInt8.ofNat _ 256 hinj
      (fun i _ => (sbxEntry i).toNat_lt.trans_eq List.length_replicate.symm) b.toNat b.toNat_lt
  rw [isbTab, sbxTabs, sbxTabs_eq, ← sbxEntry_eq]
  dsimp only
  rw [h, UInt8.ofNat_toNat]

theorem isbTab_invSbox (b : UInt8) : at8 isbTab b.toNat = invSbox b := by
  have h := isbTab_sbox (invSbox b)
  rwa [sbox_invSbox] at h

/-! ### The wide tables -/

theorem byteOf_turned (t : UInt32) (n r : Fin 4) : byteOf (turned n t) r = byteOf t (r - n) := by
  match n with
  | 0 =>
    have h : r - 0 = r := by
      revert r
      decide
    rw [turned, h]
  | 1 => exact byteOf_rotl t 1 r (by decide)
  | 2 => exact byteOf_rotl t 2 r (by decide)
  | 3 => exact byteOf_rotl t 3 r (by decide)

theorem look_map (f : ℕ → UInt32) (b : UInt8) : look ((List.range 256).map f) b = f b.toNat := by
  rw [look, List.getD_eq_getElem?_getD, List.getElem?_map, List.getElem?_range b.toNat_lt]
  rfl

/-- `fl_tab`: a substituted byte at place `n`. -/
theorem byteOf_fl (n r : Fin 4) (b : UInt8) :
    byteOf (look (flTab n) b) r = if r - n = 0 then sbox b else 0 := by
  rw [flTab, look_map, byteOf_turned, sbxTab_sbox, byteOf_toUInt32]

/-- `il_tab` -/
theorem byteOf_il (n r : Fin 4) (b : UInt8) :
    byteOf (look (ilTab n) b) r = if r - n = 0 then invSbox b else 0 := by
  rw [ilTab, look_map, byteOf_turned, isbTab_invSbox, byteOf_toUInt32]

/-- `ft_tab`: the share of a substituted byte at place `n` in the mixed column. -/
theorem byteOf_ft (n r : Fin 4) (b : UInt8) : byteOf (look (ftTab n) b) r =
    match r - n with
    | 0 => gmul 2 (sbox b)
    | 1 => sbox b
    | 2 => sbox b
    | 3 => gmul 3 (sbox b) := by
  obtain ⟨h2, h3, -⟩ := ffMult_eq (sbox b)
  have hword : ftWord (sbox b) = ofBytes4 (gmul 2 (sbox b)) (sbox b) (sbox b) (gmul 3 (sbox b)) := by
    rw [ftWord, h2, h3]
    rfl
  rw [ftTab, look_map, byteOf_turned, sbxTab_sbox, hword]
  exact byteOf_ofBytes4 _ _ _ _ _

/-- `it_tab`: the share in the unmixed column. -/
theorem byteOf_it (n r : Fin 4) (b : UInt8) : byteOf (look (itTab n) b) r =
    match r - n with
    | 0 => gmul 14 (invSbox b)
    | 1 => gmul 9 (invSbox b)
    | 2 => gmul 13 (invSbox b)
    | 3 => gmul 11 (invSbox b) := by
  obtain ⟨-, -, h9, h11, h13, h14⟩ := ffMult_eq (invSbox b)
  have hword : itWord (invSbox b) = ofBytes4 (gmul 14 (invSbox b)) (gmul 9 (invSbox b))
      (gmul 13 (invSbox b)) (gmul 11 (invSbox b)) := by
    rw [itWord, h9, h11, h13, h14]
    rfl
  rw [itTab, look_map, byteOf_turned, isbTab_invSbox, hword]
  exact byteOf_ofBytes4 _ _ _ _ _

/-! ### Columns -/

/-- The four look-ups of the last round: the column substituted. -/
theorem fl_column (b : Col) (r : Fin 4) :
    byteOf (look (flTab 0) (b 0) ^^^ look (flTab 1) (b 1) ^^^ look (flTab 2) (b 2) ^^^
      look (flTab 3) (b 3)) r = subWord b r := by
  simp only [byteOf_xor, byteOf_fl, subWord]
  match r with
  | 0 | 1 | 2 | 3 => simp

theorem il_column (b : Col) (r : Fin 4) :
    byteOf (look (ilTab 0) (b 0) ^^^ look (ilTab 1) (b 1) ^^^ look (ilTab 2) (b 2) ^^^
      look (ilTab 3) (b 3)) r = invSbox (b r) := by
  simp only [byteOf_xor, byteOf_il]
  match r with
  | 0 | 1 | 2 | 3 => simp

/-- The four look-ups of a round: the column substituted and mixed. -/
theorem ft_column (b : Col) (r : Fin 4) :
    byteOf (look (ftTab 0) (b 0) ^^^ look (ftTab 1) (b 1) ^^^ look (ftTab 2) (b 2) ^^^
      look (ftTab 3) (b 3)) r = mixColumn (subWord b) r := by
  simp only [byteOf_xor, byteOf_ft, mixColumn, subWord]
  rcases place_cases r with rfl | rfl | rfl | rfl
  · rfl
  all_goals
    simp only [Fin.isValue, Fin.reduceSub, Fin.reduceAdd]
    ac_rfl

/-- Of a round of the decryption: the column substituted back and unmixed. -/
theorem it_column (b : Col) (r : Fin 4) :
    byteOf (look (itTab 0) (b 0) ^^^ look (itTab 1) (b 1) ^^^ look (itTab 2) (b 2) ^^^
      look (itTab 3) (b 3)) r = invMixColumn (fun q => invSbox (b q)) r := by
  simp only [byteOf_xor, byteOf_it, invMixColumn]
  rcases place_cases r with rfl | rfl | rfl | rfl
  · rfl
  all_goals
    simp only [Fin.isValue, Fin.reduceSub, Fin.reduceAdd]
    ac_rfl

/-! ### Words -/

theorem byte_eq (x : UInt32) (n : Fin 4) : byte x n = byteOf x n := by
  have h : n.val <<< 3 = 8 * n.val := by
    rw [Nat.shiftLeft_eq, Nat.mul_comm]
  rw [byte, byteOf, h]

/-- `star_x` doubles the four bytes of a word at once. -/
theorem byteOf_starX (x : UInt32) (r : Fin 4) : byteOf (starX x) r = xtime (byteOf x r) := by
  have hbits : ∀ q, (byteOf ((x &&& 0x80808080) >>> 7) q).toNat ≤ 1 := by
    intro q
    rw [byteOf_shr_top]
    rcases top_bit (byteOf x q) with h | h <;> rw [h] <;> decide
  have hmul := byteOf_mul hbits 0x1b r
  rw [byteOf_shr_top] at hmul
  have hterm : byteOf (((x &&& 0x80808080) >>> 7) * 0x1b) r =
      if byteOf x r >>> 7 = 0 then 0 else 0x1b := by
    apply hmul.trans
    rcases top_bit (byteOf x r) with h | h <;> rw [h] <;> rfl
  rw [starX, byteOf_xor, byteOf_shl_low, hterm, xtime]

/-- `imix_col` unmixes the column of a word. -/
theorem byteOf_imixCol (x : UInt32) (r : Fin 4) :
    byteOf (imixCol x) r = invMixColumn (byteOf x) r := by
  have h8 : ∀ y, byteOf (genericRotr32 y 8) r = byteOf y (r + 1) := fun y => byteOf_rotr y 1 r (by decide)
  have h16 : ∀ y, byteOf (genericRotr32 y 16) r = byteOf y (r + 2) := fun y =>
    byteOf_rotr y 2 r (by decide)
  have h24 : ∀ y, byteOf (genericRotr32 y 24) r = byteOf y (r + 3) := fun y =>
    byteOf_rotr y 3 r (by decide)
  simp only [imixCol, byteOf_xor, h8, h16, h24, byteOf_starX, invMixColumn, gmul_inv_coeff]
  ac_rfl

/-- `ls_box` substitutes the bytes of a word. -/
theorem byteOf_lsBox (x : UInt32) (r : Fin 4) : byteOf (lsBox x) r = subWord (byteOf x) r := by
  simp only [lsBox, byte_eq]
  exact fl_column (byteOf x) r

end Aes

end Rtl8187
