/-
# The sizes and numbers of fragments

What `ieee80211_xmit` makes of an Ethernet frame of up to 1500 bytes: the
fragments have room for the payload, fit their buffers with all that a cipher and
the hardware add, and are numbered (`FragmentSizing`).

A buffer's `size` tells whether an operation went past its end: each operation of
the model keeps it only while it stays inside. The cipher modules look for room
themselves (`StaysInside`), so the sizes of the pool's buffers survive any run of
the sender (`fragments_sized`).

Key definitions: `SkBuff.size`, `StaysInside`, `FragmentSizing`, `SendReady`, `SendInput`.
Key theorems: `module_staysInside`, `fragmentSizing`, `sendReady_step`, `fragments_sized`.
-/
import Rtl8187.XmitFragments
import Rtl8187.Lib.Run

namespace Rtl8187

open Bytes Chunks

/-! ### The size of a buffer -/

namespace SkBuff

/-- The memory of a buffer. -/
def size (skb : SkBuff) : ℕ := skb.headroom + skb.len + skb.tailroom

variable {skb : SkBuff}

theorem size_put {bs : List UInt8} (h : bs.length ≤ skb.tailroom) : (skb.put bs).size = skb.size := by
  unfold size len tailroom put at *
  simp only [List.length_append, List.length_drop]
  omega

theorem tailroom_put (bs : List UInt8) : (skb.put bs).tailroom = skb.tailroom - bs.length := List.length_drop

theorem size_reserve {n : ℕ} (h : n ≤ skb.tailroom) : (skb.reserve n).size = skb.size := by
  unfold size len tailroom reserve at *
  simp only [List.length_drop]
  omega

theorem size_insertIv {hdrLen : ℕ} {iv : List UInt8} (h : iv.length ≤ skb.headroom) :
    (skb.insertIv hdrLen iv).size = skb.size := by
  unfold size len tailroom insertIv
  simp only [List.length_append, List.length_take, List.length_drop]
  omega

/-- A buffer is as large as at its first use. -/
theorem size_reset (h : 16 ≤ skb.headroom) : skb.reset.size = skb.size := by
  unfold size len tailroom reset
  simp only [List.length_append, List.length_replicate, List.length_nil]
  omega

end SkBuff

/-! ### The cipher modules stay inside -/

/-- An operation that starts at most `pre` bytes further in front and ends at most
`post` bytes later, inside the buffer, and that leaves the header. -/
structure Inside (pre post hdrLen : ℕ) (skb skb' : SkBuff) : Prop where
  size : skb'.size = skb.size
  front : skb.headroom ≤ skb'.headroom + pre
  back : skb'.headroom + skb'.len ≤ skb.headroom + skb.len + post
  hdr : skb'.data.take hdrLen = skb.data.take hdrLen

namespace Inside

variable {pre pre' post post' hdrLen : ℕ} {skb skb' skb'' : SkBuff}

theorem refl (pre post hdrLen : ℕ) (skb : SkBuff) : Inside pre post hdrLen skb skb :=
  ⟨rfl, Nat.le_add_right _ _, Nat.le_add_right _ _, rfl⟩

theorem trans (h : Inside pre post hdrLen skb skb') (h' : Inside pre' post' hdrLen skb' skb'') :
    Inside (pre + pre') (post + post') hdrLen skb skb'' where
  size := h'.size.trans h.size
  front := by
    have h1 := h.front
    have h2 := h'.front
    omega
  back := by
    have h1 := h.back
    have h2 := h'.back
    omega
  hdr := h'.hdr.trans h.hdr

end Inside

/-- The operations of a module use no more than the table says. -/
def CryptoOps.StaysInside {P : Type} (ops : CryptoOps P) : Prop :=
  ∃ mic ≤ ops.extraPostfixLen,
    (∀ op ∈ ops.encryptMsdu, ∀ skb hdrLen priv, Inside 0 mic hdrLen skb (op skb hdrLen priv).skb) ∧
    (∀ op ∈ ops.encryptMpdu, ∀ skb hdrLen priv,
      Inside ops.extraPrefixLen (ops.extraPostfixLen - mic) hdrLen skb (op skb hdrLen priv).skb)

section

variable {skb : SkBuff} {hdrLen : ℕ}

theorem len_insertIv {iv : List UInt8} (hlen : hdrLen ≤ skb.len) :
    (skb.insertIv hdrLen iv).len = skb.len + iv.length := by
  unfold SkBuff.len at *
  rw [SkBuff.insertIv_data, List.length_append, List.length_append, List.length_take_of_le hlen,
    List.length_drop]
  omega

theorem inside_insertIv {iv : List UInt8} (hhead : iv.length ≤ skb.headroom) (hlen : hdrLen ≤ skb.len) :
    Inside iv.length 0 hdrLen skb (skb.insertIv hdrLen iv) := by
  have hhdr : (skb.data.take hdrLen).length = hdrLen := List.length_take_of_le hlen
  refine ⟨SkBuff.size_insertIv hhead, ?_, ?_, ?_⟩
  · change skb.headroom ≤ skb.headroom - iv.length + iv.length
    omega
  · change skb.headroom - iv.length + (skb.insertIv hdrLen iv).len ≤ _
    rw [len_insertIv hlen]
    omega
  · rw [SkBuff.insertIv_data, List.append_assoc, List.take_left' hhdr]

theorem inside_put {bs : List UInt8} {post : ℕ} (hbs : bs.length ≤ post) (hroom : post ≤ skb.tailroom)
    (hlen : hdrLen ≤ skb.len) : Inside 0 post hdrLen skb (skb.put bs) := by
  refine ⟨SkBuff.size_put (hbs.trans hroom), le_rfl, ?_, ?_⟩
  · unfold SkBuff.len
    rw [SkBuff.put_data, SkBuff.put_headroom, List.length_append]
    omega
  · rw [SkBuff.put_data, List.take_append_of_le_length hlen]

/-- What follows a front of the frame is rewritten. -/
theorem inside_rewrite {n : ℕ} {body : List UInt8} (hn : hdrLen ≤ n) (hlen : n ≤ skb.len)
    (hbody : body.length = skb.len - n) : Inside 0 0 hdrLen skb { skb with data := skb.data.take n ++ body } := by
  have hfront : (skb.data.take n).length = n := List.length_take_of_le hlen
  have hwhole : (skb.data.take n ++ body).length = skb.len := by
    rw [List.length_append, hfront, hbody]
    omega
  refine ⟨?_, le_rfl, ?_, ?_⟩
  · unfold SkBuff.size SkBuff.len
    dsimp only
    rw [hwhole]
    rfl
  · unfold SkBuff.len
    dsimp only
    rw [hwhole]
    exact le_rfl
  · dsimp only
    rw [List.take_append_of_le_length (by rw [hfront]; exact hn), List.take_take, min_eq_left hn]

/-- An IV behind the header, a check value behind the payload, and everything
from behind the IV on put through a stream cipher. -/
theorem inside_stream {pre post : ℕ} {iv icv : List UInt8} {f : List UInt8 → List UInt8}
    (hf : ∀ l, (f l).length = l.length) (hiv : iv.length = pre) (hicv : icv.length = post)
    (hhead : pre ≤ skb.headroom) (hroom : post ≤ skb.tailroom) (hlen : hdrLen ≤ skb.len) :
    let made := (skb.insertIv hdrLen iv).put icv
    Inside pre post hdrLen skb
      { made with data := made.data.take (hdrLen + pre) ++ f (made.data.drop (hdrLen + pre)) } := by
  intro made
  subst hiv hicv
  have hgrown : (skb.insertIv hdrLen iv).len = skb.len + iv.length := len_insertIv hlen
  have hmade : made.len = skb.len + iv.length + icv.length := by
    rw [← hgrown, SkBuff.len, SkBuff.put_data, List.length_append]
    rfl
  have h1 : Inside iv.length 0 hdrLen skb (skb.insertIv hdrLen iv) := inside_insertIv hhead hlen
  have h2 : Inside 0 icv.length hdrLen (skb.insertIv hdrLen iv) made :=
    inside_put le_rfl hroom (by omega)
  have h3 : Inside 0 0 hdrLen made
      { made with data := made.data.take (hdrLen + iv.length) ++ f (made.data.drop (hdrLen + iv.length)) } :=
    inside_rewrite (Nat.le_add_right _ _) (by omega) (by rw [hf, List.length_drop]; rfl)
  have hall := (h1.trans h2).trans h3
  rwa [Nat.zero_add] at hall

/-- An IV behind the header, the payload rewritten, and something behind it. -/
theorem inside_block {pre post : ℕ} {iv body tail : List UInt8} (hiv : iv.length = pre)
    (hbody : body.length = skb.len - hdrLen) (htail : tail.length ≤ post)
    (hhead : pre ≤ skb.headroom) (hroom : post ≤ skb.tailroom) (hlen : hdrLen ≤ skb.len) :
    let made := skb.insertIv hdrLen iv
    Inside pre post hdrLen skb
      (SkBuff.put { made with data := made.data.take (hdrLen + pre) ++ body } tail) := by
  intro made
  subst hiv
  have hgrown : made.len = skb.len + iv.length := len_insertIv hlen
  have h1 : Inside iv.length 0 hdrLen skb made := inside_insertIv hhead hlen
  have h2 : Inside 0 0 hdrLen made { made with data := made.data.take (hdrLen + iv.length) ++ body } :=
    inside_rewrite (Nat.le_add_right _ _) (by omega) (by omega)
  have hlen' : hdrLen ≤ SkBuff.len { made with data := made.data.take (hdrLen + iv.length) ++ body } := by
    unfold SkBuff.len at hgrown hlen ⊢
    rw [List.length_append, List.length_take]
    omega
  have hall := (h1.trans h2).trans (inside_put htail hroom hlen')
  rwa [Nat.zero_add] at hall

end

section

variable (prim : Primitives) (skb : SkBuff) (hdrLen : ℕ)

theorem prism2WepEncrypt_inside (wep : WepData) :
    Inside 4 4 hdrLen skb (prism2WepEncrypt prim skb hdrLen wep).skb := by
  unfold prism2WepEncrypt
  split_ifs with hc
  · exact .refl 4 4 hdrLen skb
  · obtain ⟨hhead, hroom, hlen⟩ : 4 ≤ skb.headroom ∧ 4 ≤ skb.tailroom ∧ hdrLen ≤ skb.len := by omega
    exact inside_stream (length_arc4Crypt _) rfl rfl hhead hroom hlen

theorem tkipEncrypt_inside (tkey : TkipData) :
    Inside 8 4 hdrLen skb (tkipEncrypt prim skb hdrLen tkey).skb := by
  unfold tkipEncrypt
  split_ifs with hc
  · exact .refl 8 4 hdrLen skb
  · obtain ⟨hhead, hroom, hlen⟩ : 8 ≤ skb.headroom ∧ 4 ≤ skb.tailroom ∧ hdrLen ≤ skb.len := by omega
    exact inside_stream (length_arc4Crypt _) rfl rfl hhead hroom hlen

theorem michaelMicAdd_inside (tkey : TkipData) :
    Inside 0 michaelMicLen hdrLen skb (michaelMicAdd prim skb hdrLen tkey).skb := by
  unfold michaelMicAdd
  split_ifs with hc
  · exact .refl 0 michaelMicLen hdrLen skb
  · exact inside_put (prim.length_michaelMic _ _).le (by omega) (by omega)

theorem ccmpEncrypt_inside (key : CcmpData) :
    Inside ccmpHdrLen ccmpMicLen hdrLen skb (ccmpEncrypt prim skb hdrLen key).skb := by
  unfold ccmpEncrypt
  split_ifs with hc
  · exact .refl ccmpHdrLen ccmpMicLen hdrLen skb
  · obtain ⟨hhead, hroom, hlen⟩ :
      ccmpHdrLen ≤ skb.headroom ∧ ccmpMicLen ≤ skb.tailroom ∧ hdrLen ≤ skb.len := by omega
    have hrest : ((skb.insertIv hdrLen (key.txPn.incr.ccmpHdr key.keyIdx)).data.drop
        (hdrLen + ccmpHdrLen)).length = skb.len - hdrLen := by
      have hgrown : (skb.insertIv hdrLen (key.txPn.incr.ccmpHdr key.keyIdx)).len = skb.len + ccmpHdrLen :=
        len_insertIv hlen
      rw [List.length_drop]
      change SkBuff.len _ - _ = _
      omega
    refine inside_block rfl ?_ ?_ hhead hroom hlen
    · rw [Ccm.length_sealBlocks (prim.aes key.tfm) _ (prim.length_aes key.tfm) _ 1 _ _
        (hrest.le.trans (Ccm.le_blocks _)), hrest]
    · rw [CcmpBlocks.mic, length_xorBytes, List.length_take, List.length_take]
      omega

/-- **Every module of the driver stays inside the buffer.** -/
theorem module_staysInside {ops : CryptoOps Priv}
    (h : ops ∈ [nullOps, wepOps prim, tkipOps prim, ccmpOps prim]) : ops.StaysInside := by
  simp only [List.mem_cons, List.not_mem_nil, or_false] at h
  rcases h with rfl | rfl | rfl | rfl
  · exact ⟨0, le_rfl, nofun, nofun⟩
  · refine ⟨0, Nat.zero_le _, nofun, ?_⟩
    rintro _ ⟨⟩ skb hdrLen priv
    exact onPriv_skb (Inside 4 4 hdrLen skb) (prism2WepEncrypt_inside prim skb hdrLen) (.refl 4 4 hdrLen skb)
  · refine ⟨michaelMicLen, show michaelMicLen ≤ 12 by decide, ?_, ?_⟩
    · rintro _ ⟨⟩ skb hdrLen priv
      exact onPriv_skb (Inside 0 michaelMicLen hdrLen skb) (michaelMicAdd_inside prim skb hdrLen)
        (.refl 0 michaelMicLen hdrLen skb)
    · rintro _ ⟨⟩ skb hdrLen priv
      exact onPriv_skb (Inside 8 4 hdrLen skb) (tkipEncrypt_inside prim skb hdrLen) (.refl 8 4 hdrLen skb)
  · refine ⟨0, Nat.zero_le _, nofun, ?_⟩
    rintro _ ⟨⟩ skb hdrLen priv
    exact onPriv_skb (Inside ccmpHdrLen ccmpMicLen hdrLen skb) (ccmpEncrypt_inside prim skb hdrLen)
      (.refl ccmpHdrLen ccmpMicLen hdrLen skb)

end

/-! ### What one frame becomes -/

/-- `MAX_NUM_FRAGS` -/
def maxNumFrags : ℕ := 8

/-- The payload of fragment `i`, with the SNAP header. -/
def XmitPlan.fragPayload (pl : XmitPlan) (i : ℕ) : ℕ := (pl.snap i).length + pl.bytes i

/-- What the module of the transmit key puts in front of a fragment's payload. -/
def cipherPrefix {P : Type} (d : Device P) (encrypt : Bool) : ℕ :=
  if encrypt then d.txCrypt.elim 0 (·.1.extraPrefixLen) else 0

/-- What it puts behind. -/
def cipherPostfix {P : Type} (d : Device P) (encrypt : Bool) : ℕ :=
  if encrypt then d.txCrypt.elim 0 (·.1.extraPostfixLen) else 0

/-- What the host leaves for the FCS. -/
def fcsRoom {P : Type} (d : Device P) : ℕ := if d.configFcs then fcsLen else 0

/-- The number a fragment has, which of the frame's fragments it says it is, and
whether it says it is the last. -/
structure Numbered (seq : UInt16) (i n : ℕ) (frag : List UInt8) : Prop where
  seq_eq : (seqSeq (seqCtl frag)).toNat = seq.toNat * 16
  frag_eq : fragOf frag = i
  more_iff : moreFrags (frameCtl frag) = true ↔ i + 1 ≠ n

/-- The sizes and the numbers of the fragments that `ieee80211_xmit` makes of an
Ethernet frame, and the number it keeps for the next. -/
structure FragmentSizing {P : Type} (d : Device P) (skb : SkBuff) : Prop where
  perFrag : 8 < (xmitPlan d skb).bytesPerFrag
  count : 1 ≤ (xmitPlan d skb).nrFrags ∧ (xmitPlan d skb).nrFrags ≤ maxNumFrags
  payload : ((List.range (xmitPlan d skb).nrFrags).map (xmitPlan d skb).fragPayload).sum = skb.len - ethHlen + 8
  /-- Everything a fragment is to hold, in its buffer. -/
  fits : ∀ i < (xmitPlan d skb).nrFrags, (poolFragments d i).headroom + cipherPrefix d (xmitPlan d skb).encrypt +
    dataHdr3Len + (xmitPlan d skb).fragPayload i + cipherPostfix d (xmitPlan d skb).encrypt + fcsRoom d ≤
      (poolFragments d i).size
  /-- Nothing was written past the end. -/
  inside : ∀ i < (xmitPlan d skb).nrFrags, ((xmitFragments d skb).1.fragments i).size = (poolFragments d i).size
  numbered : ∀ i < (xmitPlan d skb).nrFrags,
    Numbered d.seqCtrl i (xmitPlan d skb).nrFrags ((xmitFragments d skb).1.fragments i).data
  counter : (xmitFragments d skb).2.seqCtrl.toNat = (d.seqCtrl.toNat + 1) % 4096

section

variable {P : Type} {d : Device P} {skb : SkBuff}

@[simp] theorem length_snap (pl : XmitPlan) (i : ℕ) : (pl.snap i).length = if i = 0 then snapLen else 0 := by
  unfold XmitPlan.snap
  split_ifs
  · exact length_putSnap _
  · rfl

/-- The fragments carry the pieces of the body. -/
theorem fragPayload_eq {i : ℕ} (hi : i < (xmitPlan d skb).nrFrags) : (xmitPlan d skb).fragPayload i =
    (chunk (xmitPlan d skb).bytesPerFrag (xmitBody skb) i).length := by
  obtain ⟨hpos, hsum, hlast⟩ := xmitPlan_count d skb
  have hper : 208 ≤ (xmitPlan d skb).bytesPerFrag := bytesPerFrag_ge d _ _
  have hsnap : snapLen = 8 := rfl
  have hbody := @length_xmitBody skb
  rw [length_chunk_xmitBody hi, XmitPlan.fragPayload, XmitPlan.bytes, length_snap]
  by_cases hzero : i = 0
  · by_cases hend : i + 1 = (xmitPlan d skb).nrFrags
    · have hone : (xmitPlan d skb).nrFrags - 1 = 0 := by omega
      rw [hone, Nat.zero_mul, Nat.zero_add] at hsum
      rw [if_pos hzero, if_pos hend]
      omega
    · rw [if_pos hzero, if_neg hend]
      omega
  · rw [if_neg hzero, Nat.zero_add, Nat.sub_zero]

theorem fragPayload_sum (d : Device P) (skb : SkBuff) :
    ((List.range (xmitPlan d skb).nrFrags).map (xmitPlan d skb).fragPayload).sum = (xmitPayload skb).len + 8 := by
  set per := (xmitPlan d skb).bytesPerFrag with hper
  have hall : (xmitBody skb).length ≤ (xmitPlan d skb).nrFrags * per := length_xmitBody_le d skb
  calc ((List.range (xmitPlan d skb).nrFrags).map (xmitPlan d skb).fragPayload).sum
      = ((List.range (xmitPlan d skb).nrFrags).map fun i => (chunk per (xmitBody skb) i).length).sum := by
        congr 1
        exact List.map_congr_left fun i hi => fragPayload_eq (List.mem_range.mp hi)
    _ = ((List.range (xmitPlan d skb).nrFrags).map (chunk per (xmitBody skb))).flatten.length := by
        rw [List.length_flatten, List.map_map]
        rfl
    _ = (xmitPayload skb).len + 8 := by rw [flatten_chunks hall, length_xmitBody]; rfl

theorem fragPayload_le {i : ℕ} (hi : i < (xmitPlan d skb).nrFrags) :
    (xmitPlan d skb).fragPayload i ≤ (xmitPayload skb).len + 8 := by
  rw [fragPayload_eq hi, length_chunk, length_xmitBody]
  exact (min_le_right _ _).trans (Nat.sub_le _ _)

/-- No cipher adds more than this. -/
theorem cipher_le (d : Device P) (encrypt : Bool) : cipherPrefix d encrypt + cipherPostfix d encrypt ≤ 20 := by
  unfold cipherPrefix cipherPostfix
  split_ifs
  · cases d.txCrypt with
    | none => exact Nat.zero_le _
    | some c => exact c.1.extra_le
  · exact Nat.zero_le _

theorem fcsRoom_le (d : Device P) : fcsRoom d ≤ 4 := by
  unfold fcsRoom
  split_ifs
  · exact le_rfl
  · exact Nat.zero_le _

end

/-! ### The fragments in their buffers -/

/-- Every key's module stays inside the buffer. -/
def ModulesInside {P : Type} (d : Device P) : Prop :=
  ∀ idx, ∀ c ∈ d.cryptOps idx, c.1.StaysInside

/-- The two devices have the same modules in their slots, and leave the same for
the FCS. -/
structure SameModules {P : Type} (d' d : Device P) : Prop where
  configFcs : d'.configFcs = d.configFcs
  txKeyidx : d'.txKeyidx = d.txKeyidx
  modules : ∀ idx, (d'.cryptOps idx).map Prod.fst = (d.cryptOps idx).map Prod.fst

/-- What holds of the modules of one device holds of the same modules. -/
theorem all_modules {P : Type} {d' d : Device P}
    (h : ∀ idx, (d'.cryptOps idx).map Prod.fst = (d.cryptOps idx).map Prod.fst) {Q : CryptoOps P → Prop}
    (hd : ∀ idx, ∀ c ∈ d.cryptOps idx, Q c.1) : ∀ idx, ∀ c ∈ d'.cryptOps idx, Q c.1 := by
  intro idx c hc
  have hmod := h idx
  rw [hc] at hmod
  obtain ⟨c', hc', hfst⟩ := Option.map_eq_some_iff.mp hmod.symm
  rw [← hfst]
  exact hd idx c' hc'

namespace SameModules

variable {P : Type} {d d' d'' : Device P}

theorem refl (d : Device P) : SameModules d d := ⟨rfl, rfl, fun _ => rfl⟩

theorem trans (h : SameModules d'' d') (h' : SameModules d' d) : SameModules d'' d :=
  ⟨h.configFcs.trans h'.configFcs, h.txKeyidx.trans h'.txKeyidx,
    fun idx => (h.modules idx).trans (h'.modules idx)⟩

theorem inside (h : SameModules d' d) (hd : ModulesInside d) : ModulesInside d' := all_modules h.modules hd

/-- What is computed from the module of the transmit key alone. -/
theorem elim_eq (h : SameModules d' d) (f : CryptoOps P → ℕ) :
    d'.txCrypt.elim 0 (fun c => f c.1) = d.txCrypt.elim 0 (fun c => f c.1) := by
  have hmod := h.modules d.txKeyidx
  unfold Device.txCrypt
  rw [h.txKeyidx]
  cases hc : d.cryptOps d.txKeyidx with
  | none =>
    rw [hc, Option.map_none, Option.map_eq_none_iff] at hmod
    rw [hmod]
  | some c =>
    rw [hc] at hmod
    obtain ⟨c', hc', hfst⟩ := Option.map_eq_some_iff.mp hmod
    rw [hc']
    exact congrArg f hfst

theorem cipher_eq (h : SameModules d' d) (encrypt : Bool) :
    cipherPrefix d' encrypt = cipherPrefix d encrypt ∧ cipherPostfix d' encrypt = cipherPostfix d encrypt := by
  unfold cipherPrefix cipherPostfix
  rw [h.elim_eq CryptoOps.extraPrefixLen, h.elim_eq CryptoOps.extraPostfixLen]
  exact ⟨rfl, rfl⟩

theorem setPriv (d : Device P) (idx : KeyIdx) (priv : P) : SameModules (d.setPriv idx priv) d := by
  refine ⟨rfl, rfl, fun k => ?_⟩
  unfold Device.cryptOps Device.setPriv
  dsimp only
  by_cases hk : k = idx
  · subst hk
    rw [Function.update_self]
    cases d.crypt k with
    | none => rfl
    | some c =>
      obtain ⟨ops, _⟩ := c
      cases ops <;> rfl
  · rw [Function.update_of_ne hk]

end SameModules

section

variable {P : Type} {d : Device P} {pl : XmitPlan}

theorem Inside.mono {pre pre' post post' hdrLen : ℕ} {skb skb' : SkBuff} (h : Inside pre post hdrLen skb skb')
    (hpre : pre ≤ pre') (hpost : post ≤ post') : Inside pre' post' hdrLen skb skb' where
  size := h.size
  front := h.front.trans (Nat.add_le_add_left hpre _)
  back := h.back.trans (Nat.add_le_add_left hpost _)
  hdr := h.hdr

/-- What a module leaves that may lack the operation. -/
theorem inside_ofOp {op : Option (MpduOp P)} {pre post : ℕ}
    (h : ∀ f ∈ op, ∀ skb hdrLen priv, Inside pre post hdrLen skb (f skb hdrLen priv).skb) (skb : SkBuff)
    (hdrLen : ℕ) (priv : P) : Inside pre post hdrLen skb (CryptRes.ofOp op skb hdrLen priv).skb := by
  cases op with
  | none => exact .refl _ _ _ _
  | some f => exact h f rfl skb hdrLen priv

/-- Encrypting a fragment leaves the modules. -/
theorem encryptBuilt_sameModules (d : Device P) (frag : SkBuff) : SameModules (encryptBuilt pl d frag).2 d := by
  unfold encryptBuilt encryptFragment
  by_cases hencrypt : pl.encrypt = true
  · rw [if_pos hencrypt]
    cases d.txCrypt with
    | none => exact .refl d
    | some c =>
      by_cases hstop : d.countermeasuresStop c.1 = true
      · simp only [if_pos hstop]
        exact .refl d
      · simp only [if_neg hstop]
        exact .setPriv d _ _
  · rw [if_neg hencrypt]
    exact .refl d

/-- The fragments before this one have left the modules. -/
theorem devAt_sameModules (pl : XmitPlan) (d : Device P) (skb : SkBuff) (frags : ℕ → SkBuff) :
    ∀ i, SameModules (devAt pl d skb frags i) d
  | 0 => .refl d
  | i + 1 => (encryptBuilt_sameModules _ _).trans (devAt_sameModules pl d skb frags i)

/-- It stays inside the buffer. -/
theorem encryptFragment_inside (hd : ModulesInside d) {frag frag' : SkBuff} {ret : Int} {d' : Device P}
    {hdrLen : ℕ} (h : encryptFragment d frag hdrLen = some (ret, frag', d')) :
    Inside (cipherPrefix d true) (cipherPostfix d true) hdrLen frag frag' := by
  unfold encryptFragment at h
  cases hc : d.txCrypt with
  | none =>
    rw [hc] at h
    cases h
  | some c =>
    obtain ⟨ops, priv⟩ := c
    have hpre : cipherPrefix d true = ops.extraPrefixLen := by
      rw [cipherPrefix, hc]
      rfl
    have hpost : cipherPostfix d true = ops.extraPostfixLen := by
      rw [cipherPostfix, hc]
      rfl
    rw [hpre, hpost]
    rw [hc] at h
    dsimp only at h
    by_cases hstop : d.countermeasuresStop ops = true
    · rw [if_pos hstop] at h
      cases h
      exact .refl _ _ _ _
    rw [if_neg hstop] at h
    cases h
    obtain ⟨mic, hmic, hmsdu, hmpdu⟩ := hd d.txKeyidx _ hc
    have h1 := inside_ofOp hmsdu frag hdrLen priv
    split_ifs with hret
    · have h2 := h1.trans (inside_ofOp hmpdu _ hdrLen (CryptRes.ofOp ops.encryptMsdu frag hdrLen priv).priv)
      rwa [Nat.zero_add, Nat.add_sub_cancel' hmic] at h2
    · exact h1.mono (Nat.zero_le _) hmic

theorem encryptBuilt_inside (hd : ModulesInside d) (frag : SkBuff) :
    Inside (cipherPrefix d pl.encrypt) (cipherPostfix d pl.encrypt) dataHdr3Len frag
      (encryptBuilt pl d frag).1 := by
  unfold encryptBuilt
  cases he : pl.encrypt with
  | false => exact .refl _ _ _ _
  | true =>
    rw [if_pos rfl]
    cases h : encryptFragment d frag dataHdr3Len with
    | none => exact .refl _ _ _ _
    | some r => exact encryptFragment_inside hd h

end

/-- The buffers of the pool: as large as when they were allocated, and empty at
their start if they are not used. -/
structure PoolReady {P : Type} (d : Device P) : Prop where
  size : ∀ idx i, ((d.allocTxb idx).fragments i).size = (SkBuff.devAllocSkb maxSizeTxSkb).size
  headroom : ∀ idx i, 16 ≤ ((d.allocTxb idx).fragments i).headroom
  clean : PoolClean d
  unused : ∀ idx i, (d.allocTxb idx).nrFrags ≤ i → ((d.allocTxb idx).fragments i).headroom = 16

theorem size_poolBuf : (SkBuff.devAllocSkb maxSizeTxSkb).size = 2368 := by
  unfold SkBuff.size SkBuff.devAllocSkb SkBuff.len SkBuff.tailroom maxSizeTxSkb
  rw [List.length_replicate]
  rfl

/-- The buffers a frame gets. -/
theorem PoolReady.poolFragments {P : Type} {d : Device P} (h : PoolReady d) (i : ℕ) :
    (poolFragments d i).size = 2368 ∧ (poolFragments d i).data = [] ∧ (poolFragments d i).headroom = 16 := by
  have hdata := h.clean.poolFragments i
  rw [← size_poolBuf]
  unfold Rtl8187.poolFragments at hdata ⊢
  split_ifs at hdata ⊢ with hi
  · exact ⟨(SkBuff.size_reset (h.headroom _ i)).trans (h.size _ i), hdata, rfl⟩
  · exact ⟨h.size _ i, hdata, h.unused _ i (not_lt.mp hi)⟩

section

variable {P : Type} {d : Device P} {skb : SkBuff} {i : ℕ}

/-- A fragment before its encryption: behind the room for the cipher, with its
header, and inside its buffer. -/
theorem plainFragment_inside (h : PoolReady d) (hlen : (xmitPayload skb).len ≤ 1500)
    (hi : i < (xmitPlan d skb).nrFrags) :
    let plain := plainFragment (xmitPlan d skb) (xmitPayload skb) (poolFragments d) i
    plain.size = 2368 ∧ plain.headroom = 16 + cipherPrefix d (xmitPlan d skb).encrypt ∧
      plain.len = dataHdr3Len + (xmitPlan d skb).fragPayload i ∧
      plain.data.take dataHdr3Len = (xmitPlan d skb).header i := by
  intro plain
  obtain ⟨hsize, hempty, hhead⟩ := h.poolFragments i
  have hdata := plainFragment_data hi hempty
  have hhdr : ((xmitPlan d skb).header i).length = dataHdr3Len := by
    rw [xmitPlan_header]
    exact length_dataHdr ..
  have hplain : plain.len = dataHdr3Len + (xmitPlan d skb).fragPayload i := by
    rw [SkBuff.len, hdata, List.length_append, hhdr, fragPayload_eq hi]
  -- the buffer with the cipher's room set aside
  set frag := if (xmitPlan d skb).encrypt then (poolFragments d i).reserve (xmitPlan d skb).reserved
    else poolFragments d i with hfrag
  have hcipher := cipher_le d (xmitPlan d skb).encrypt
  have hroom : (poolFragments d i).tailroom = 2352 := by
    unfold SkBuff.size SkBuff.len at hsize
    rw [hempty, hhead] at hsize
    exact Nat.add_left_cancel hsize
  have hset : frag.size = 2368 ∧ frag.headroom = 16 + cipherPrefix d (xmitPlan d skb).encrypt ∧
      2332 ≤ frag.tailroom := by
    cases he : (xmitPlan d skb).encrypt with
    | false =>
      rw [he] at hfrag
      rw [hfrag]
      exact ⟨hsize, hhead, by change 2332 ≤ (poolFragments d i).tailroom; omega⟩
    | true =>
      have hres : (xmitPlan d skb).reserved = cipherPrefix d true := by
        change (if (xmitPlan d skb).encrypt then _ else 0) = _
        rw [he]
        rfl
      rw [he] at hfrag hcipher
      rw [hfrag, if_pos rfl, hres]
      refine ⟨(SkBuff.size_reserve (by omega)).trans hsize, ?_, ?_⟩
      · change (poolFragments d i).headroom + _ = _
        rw [hhead]
      · change 2332 ≤ ((poolFragments d i).behind.drop _).length
        rw [List.length_drop]
        change _ ≤ (poolFragments d i).tailroom - _
        omega
  obtain ⟨hfsize, hfhead, hftail⟩ := hset
  have hpay := fragPayload_le hi
  rw [XmitPlan.fragPayload] at hpay
  have htake : ((restAt (xmitPlan d skb) (xmitPayload skb) i).mem.take ((xmitPlan d skb).bytes i)).length ≤
      (xmitPlan d skb).bytes i := List.length_take_le _ _
  have hthree : dataHdr3Len = 24 := rfl
  have h1 : ((xmitPlan d skb).header i).length ≤ frag.tailroom := by omega
  have h2 : ((xmitPlan d skb).snap i).length ≤ (frag.put ((xmitPlan d skb).header i)).tailroom := by
    rw [SkBuff.tailroom_put]
    omega
  have h3 : ((restAt (xmitPlan d skb) (xmitPayload skb) i).mem.take ((xmitPlan d skb).bytes i)).length ≤
      ((frag.put ((xmitPlan d skb).header i)).put ((xmitPlan d skb).snap i)).tailroom := by
    rw [SkBuff.tailroom_put, SkBuff.tailroom_put]
    omega
  refine ⟨?_, hfhead, hplain, ?_⟩
  · calc plain.size = ((frag.put ((xmitPlan d skb).header i)).put ((xmitPlan d skb).snap i)).size :=
          SkBuff.size_put h3
      _ = frag.size := (SkBuff.size_put h2).trans (SkBuff.size_put h1)
      _ = 2368 := hfsize
  · rw [hdata, List.take_left' hhdr]

/-- A fragment as it is handed on: inside its buffer, and still with its header. -/
theorem outFragment_inside (h : PoolReady d) (hmod : ModulesInside d) (hlen : (xmitPayload skb).len ≤ 1500)
    (hi : i < (xmitPlan d skb).nrFrags) :
    let out := outFragment (xmitPlan d skb) d (xmitPayload skb) (poolFragments d) i
    out.size = 2368 ∧ 16 ≤ out.headroom ∧ out.data.take dataHdr3Len = (xmitPlan d skb).header i := by
  intro out
  obtain ⟨hsize, hhead, hplain, hhdr⟩ := plainFragment_inside h hlen hi
  set pl := xmitPlan d skb with hpl
  set plain := plainFragment pl (xmitPayload skb) (poolFragments d) i with hplaindef
  set dev := devAt pl d (xmitPayload skb) (poolFragments d) i with hdev
  have hsame : SameModules dev d := devAt_sameModules pl d (xmitPayload skb) (poolFragments d) i
  have hin := @encryptBuilt_inside P dev pl (hsame.inside hmod) plain
  obtain ⟨hpre, hpost⟩ := hsame.cipher_eq pl.encrypt
  rw [hpre, hpost] at hin
  set enc := (encryptBuilt pl dev plain).1 with henc
  have hfront := hin.front
  have hback := hin.back
  have hcipher := cipher_le d pl.encrypt
  have hpay : pl.fragPayload i ≤ (xmitPayload skb).len + 8 := fragPayload_le hi
  have hesize : enc.size = 2368 := hin.size.trans hsize
  have hehdr : enc.data.take dataHdr3Len = pl.header i := hin.hdr.trans hhdr
  have hthree : dataHdr3Len = 24 := rfl
  have hroom : 4 ≤ enc.tailroom := by
    unfold SkBuff.size at hesize
    omega
  have helen : dataHdr3Len ≤ enc.data.length := by
    have hhl : (pl.header i).length = dataHdr3Len := by
      rw [hpl, xmitPlan_header]
      exact length_dataHdr ..
    rw [← hehdr, List.length_take] at hhl
    omega
  change (putFcs dev enc).size = 2368 ∧ 16 ≤ (putFcs dev enc).headroom ∧
    (putFcs dev enc).data.take dataHdr3Len = pl.header i
  unfold putFcs
  split_ifs
  · have hfcs : ((enc.behind ++ List.replicate fcsLen 0).take fcsLen).length ≤ enc.tailroom :=
      (List.length_take_le _ _).trans hroom
    refine ⟨(SkBuff.size_put hfcs).trans hesize, ?_, ?_⟩
    · rw [SkBuff.put_headroom]
      omega
    · rw [SkBuff.put_data, List.take_append_of_le_length helen, hehdr]
  · exact ⟨hesize, by omega, hehdr⟩

end

/-! ### A frame in such a pool -/

section

variable {P : Type} {d : Device P} {skb : SkBuff}

/-- The mask of the number leaves a shifted number. -/
theorem shiftLeft_and_seq (seq : UInt16) : (seq <<< 4) &&& (0xFFF0 : UInt16) = seq <<< 4 := by
  calc (seq <<< 4) &&& (0xFFF0 : UInt16)
      = ((seq <<< 4) &&& (0xFFF0 : UInt16)) ||| ((seq <<< 4) &&& (0x000F : UInt16)) := by
        rw [shiftLeft_and_frag, UInt16.or_zero]
    _ = (seq <<< 4) &&& ((0xFFF0 : UInt16) ||| 0x000F) := (UInt16.toBitVec_inj.mp BitVec.and_or_distrib_left).symm
    _ = seq <<< 4 := UInt16.and_neg_one

/-- The counter has twelve bits. -/
theorem nextSeqCtrl_toNat {seq : UInt16} (h : seq.toNat < 4096) :
    (Device.nextSeqCtrl seq).toNat = (seq.toNat + 1) % 4096 := by
  unfold Device.nextSeqCtrl
  split_ifs with hlast
  · rw [hlast]
    rfl
  · have hne : seq.toNat ≠ 4095 := fun he => hlast (UInt16.toNat_inj.mp he)
    rw [UInt16.toNat_add]
    change (seq.toNat + 1) % 65536 = _
    omega

theorem seqSeq_shift {seq : UInt16} (h : seq.toNat < 4096) : (seqSeq (seq <<< 4)).toNat = seq.toNat * 16 := by
  have hfour : UInt16.toNat 4 % 16 = 4 := rfl
  rw [seqSeq, shiftLeft_and_seq, UInt16.toNat_shiftLeft, hfour, Nat.shiftLeft_eq]
  omega

/-- The number of a header that `ieee80211_xmit` makes. -/
theorem numbered_header (hseq : d.seqCtrl.toNat < 4096) {i : ℕ} (hi : i < 16) {frag : List UInt8}
    (h : frag.take dataHdr3Len = (xmitPlan d skb).header i) :
    Numbered d.seqCtrl i (xmitPlan d skb).nrFrags frag := by
  rw [xmitPlan_header] at h
  have hsc : seqCtl frag = fragSc d.seqCtrl i := by
    rw [← seqCtl_take (show 23 < dataHdr3Len by decide), h, ← List.append_nil (dataHdr ..), seqCtl_dataHdr]
  have hfc : frameCtl frag = fragFc (xmitPlan d skb).encrypt (d.iwMode == .infra)
      (i + 1 != (xmitPlan d skb).nrFrags) := by
    rw [← frameCtl_take (show 1 < dataHdr3Len by decide), h, ← List.append_nil (dataHdr ..), frameCtl_dataHdr]
  obtain ⟨-, -, -, hmore, -⟩ := fragFc_flags (xmitPlan d skb).encrypt (d.iwMode == .infra)
    (i + 1 != (xmitPlan d skb).nrFrags)
  refine ⟨?_, ?_, ?_⟩
  · rw [hsc, fragSc_seq d.seqCtrl hi, seqSeq_shift hseq]
  · rw [fragOf, hsc, fragSc_frag d.seqCtrl hi]
  · rw [hfc, hmore, bne_iff_ne]

/-- **The fragments of an Ethernet frame.** -/
theorem fragmentSizing (h : PoolReady d) (hmod : ModulesInside d) (hseq : d.seqCtrl.toNat < 4096)
    (hmin : ethHlen ≤ skb.len) (hmax : skb.len ≤ ethHlen + 1500) : FragmentSizing d skb := by
  have hpay : (xmitPayload skb).len = skb.len - ethHlen := by
    rw [xmitPayload, SkBuff.len, SkBuff.pull_data hmin, List.length_drop]
    rfl
  have hlen : (xmitPayload skb).len ≤ 1500 := by omega
  have hnr : (xmitPlan d skb).nrFrags ≤ 8 := nrFrags_le hlen
  have hout : ∀ i < (xmitPlan d skb).nrFrags, (xmitFragments d skb).1.fragments i =
      outFragment (xmitPlan d skb) d (xmitPayload skb) (poolFragments d) i := fun i hi => by
    rw [xmitFragments_fragments, if_pos hi]
  refine ⟨lt_of_lt_of_le (by decide) (bytesPerFrag_ge d _ _), ⟨(xmitPlan_count d skb).1, hnr⟩, ?_, ?_, ?_, ?_, ?_⟩
  · rw [fragPayload_sum, hpay]
  · intro i hi
    obtain ⟨hsize, -, hhead⟩ := h.poolFragments i
    have hcipher := cipher_le d (xmitPlan d skb).encrypt
    have hfcs := fcsRoom_le d
    have hpayi := fragPayload_le hi
    have hthree : dataHdr3Len = 24 := rfl
    omega
  · intro i hi
    rw [hout i hi, (h.poolFragments i).1]
    exact (outFragment_inside h hmod hlen hi).1
  · intro i hi
    rw [hout i hi]
    exact numbered_header hseq (by omega) (outFragment_inside h hmod hlen hi).2.2
  · exact nextSeqCtrl_toNat hseq

end

/-! ### Runs of the sender -/

/-- An Ethernet frame with up to 1500 bytes of payload. -/
structure EtherFrame where
  skb : SkBuff
  min_le : ethHlen ≤ skb.len
  le_max : skb.len ≤ ethHlen + 1500

theorem EtherFrame.payload_le (eth : EtherFrame) : (xmitPayload eth.skb).len ≤ 1500 := by
  have hmax := eth.le_max
  rw [xmitPayload, SkBuff.len, SkBuff.pull_data eth.min_le, List.length_drop]
  unfold SkBuff.len at hmax
  omega

/-- The modules of the driver. -/
def cipherModules (prim : Primitives) : List (CryptoOps Priv) :=
  [nullOps, wepOps prim, tkipOps prim, ccmpOps prim]

/-- `DEFAULT_FRAG_THRESHOLD` -/
def defaultFragThreshold : FragThreshold := ⟨2342, FragThreshold.default_min, FragThreshold.default_max⟩

/-- `r8180_wx_set_frag`: the threshold a request asks for, as the unsigned number
it is compared as, or the default; whether the radio is switched off. -/
def wxSetFrag {P : Type} (d : Device P) (hwRadioOff : Bool) (request : Option UInt32) : Int × Device P :=
  if hwRadioOff then (0, d)
  else
    match request with
    | none => (0, { d with fts := defaultFragThreshold })
    | some value =>
      if h : 256 ≤ value.toNat ∧ value.toNat ≤ 2346 then
        (0, { d with fts := ⟨value.toNat - value.toNat % 2, by omega, by omega⟩ })
      else (-22, d)

/-- What the rest of the driver does, which neither sends nor sets keys. -/
structure SendRest where
  run : Device Priv → Device Priv
  allocTxb_eq : ∀ d, (run d).allocTxb = d.allocTxb
  seqCtrl_eq : ∀ d, (run d).seqCtrl = d.seqCtrl
  fts_eq : ∀ d, (run d).fts = d.fts
  modules_eq : ∀ d idx, ((run d).cryptOps idx).map Prod.fst = (d.cryptOps idx).map Prod.fst

/-- What the sender meets: frames, management frames that take a number, an
association that starts the numbers anew, thresholds and keys. -/
inductive SendInput (prim : Primitives) where
  | frame (env : Env) (eth : EtherFrame)
  | mgmt
  | restart
  | setFrag (hwRadioOff : Bool) (request : Option UInt32)
  | setKey (idx : KeyIdx) (crypt : Option (CryptData Priv))
      (known : ∀ c ∈ crypt, ∀ ops ∈ c.ops, ops ∈ cipherModules prim)
  | rest (act : SendRest)

def SendInput.step {prim : Primitives} (d : Device Priv) : SendInput prim → Device Priv
  | .frame env eth => (xmitTxb env d eth.skb).2.2
  | .mgmt => { d with seqCtrl := Device.nextSeqCtrl d.seqCtrl }
  | .restart => { d with seqCtrl := 0 }
  | .setFrag hwRadioOff request => (wxSetFrag d hwRadioOff request).2
  | .setKey idx crypt _ => { d with crypt := Function.update d.crypt idx crypt }
  | .rest act => act.run d

/-- The sender between two frames. -/
structure SendReady (prim : Primitives) (d : Device Priv) : Prop where
  pool : PoolReady d
  modules : ∀ idx, ∀ c ∈ d.cryptOps idx, c.1 ∈ cipherModules prim
  seq : d.seqCtrl.toNat < 4096

section

variable {prim : Primitives} {d : Device Priv}

theorem SendReady.inside (h : SendReady prim d) : ModulesInside d :=
  fun idx c hc => module_staysInside prim (h.modules idx c hc)

theorem SendReady.sizing (h : SendReady prim d) (frame : EtherFrame) : FragmentSizing d frame.skb :=
  fragmentSizing h.pool h.inside h.seq frame.min_le frame.le_max

theorem sendReady_init (kernel : KernelConfig) (devAddr : Mac) :
    SendReady prim (Device.init Priv kernel devAddr) := by
  have hfresh : ∀ idx i, ((Device.init Priv kernel devAddr).allocTxb idx).fragments i =
      SkBuff.devAllocSkb maxSizeTxSkb := fun _ _ => rfl
  have hroom : (SkBuff.devAllocSkb maxSizeTxSkb).headroom = 16 := rfl
  refine ⟨⟨fun idx i => ?_, fun idx i => ?_, ?_, fun idx i _ => ?_⟩, ?_, ?_⟩
  · rw [hfresh]
  · rw [hfresh, hroom]
  · exact poolClean_init kernel devAddr
  · rw [hfresh, hroom]
  · intro idx c hc
    cases hc
  · change 0 < 4096
    decide

/-- What a frame leaves of the modules. -/
theorem xmitFragments_sameModules {P : Type} (d : Device P) (skb : SkBuff) : SameModules (xmitFragments d skb).2 d := by
  rw [xmitFragments_dev]
  have hdev := devAt_sameModules (xmitPlan d skb) d (xmitPayload skb) (poolFragments d) (xmitPlan d skb).nrFrags
  generalize devAt (xmitPlan d skb) d (xmitPayload skb) (poolFragments d) (xmitPlan d skb).nrFrags = dev at hdev ⊢
  exact ⟨hdev.configFcs, hdev.txKeyidx, hdev.modules⟩

/-- What a frame leaves: its TXB in the pool, the next number, and the modules. -/
theorem xmitFragments_leaves (h : SendReady prim d) (eth : EtherFrame) :
    SendReady prim (xmitFragments d eth.skb).2 := by
  have hsizing := h.sizing eth
  have hlen := eth.payload_le
  have hpool : (xmitFragments d eth.skb).2.allocTxb =
      Function.update d.allocTxb d.txSkbIndex (xmitFragments d eth.skb).1 := rfl
  have hsame := xmitFragments_sameModules d eth.skb
  have hbuf : ∀ i, ((xmitFragments d eth.skb).1.fragments i).size = 2368 ∧
      16 ≤ ((xmitFragments d eth.skb).1.fragments i).headroom ∧
      ((xmitPlan d eth.skb).nrFrags ≤ i → ((xmitFragments d eth.skb).1.fragments i).headroom = 16) := by
    intro i
    rw [xmitFragments_fragments]
    by_cases hi : i < (xmitPlan d eth.skb).nrFrags
    · obtain ⟨hsize, hhead, -⟩ := outFragment_inside h.pool h.inside hlen hi
      rw [if_pos hi]
      exact ⟨hsize, hhead, fun hle => absurd hi (not_lt.mpr hle)⟩
    · obtain ⟨hsize, -, hhead⟩ := h.pool.poolFragments i
      rw [if_neg hi]
      exact ⟨hsize, hhead.ge, fun _ => hhead⟩
  refine ⟨⟨?_, ?_, poolClean_xmitFragments h.pool.clean eth.skb, ?_⟩, all_modules hsame.modules h.modules, ?_⟩
  · intro idx i
    rw [hpool, size_poolBuf]
    by_cases hidx : idx = d.txSkbIndex
    · rw [hidx, Function.update_self]
      exact (hbuf i).1
    · rw [Function.update_of_ne hidx, h.pool.size, size_poolBuf]
  · intro idx i
    rw [hpool]
    by_cases hidx : idx = d.txSkbIndex
    · rw [hidx, Function.update_self]
      exact (hbuf i).2.1
    · rw [Function.update_of_ne hidx]
      exact h.pool.headroom idx i
  · intro idx i
    rw [hpool]
    by_cases hidx : idx = d.txSkbIndex
    · rw [hidx, Function.update_self]
      exact (hbuf i).2.2
    · rw [Function.update_of_ne hidx]
      exact h.pool.unused idx i
  · rw [hsizing.counter]
    exact Nat.mod_lt _ (by decide)

/-- What `ieee80211_xmit` leaves of the device. -/
theorem xmitTxb_dev (env : Env) (d : Device Priv) (skb : SkBuff) :
    (xmitTxb env d skb).2.2 = d ∨ (xmitTxb env d skb).2.2 = (xmitFragments d skb).2 := by
  unfold xmitTxb
  split_ifs with hqueue hraw hshort halloc hsnap hdrop hpending
  · exact Or.inl rfl
  · exact Or.inl rfl
  · exact Or.inl rfl
  · exact Or.inl rfl
  · exact Or.inl rfl
  · exact Or.inl rfl
  · exact Or.inr rfl
  · exact Or.inl rfl

/-- Where a slot's module comes from. -/
theorem cryptOps_module {d : Device Priv} {idx : KeyIdx} {c : CryptoOps Priv × Priv} (h : c ∈ d.cryptOps idx) :
    ∃ data ∈ d.crypt idx, c.1 ∈ data.ops := by
  unfold Device.cryptOps at h
  split at h
  · rename_i ops priv heq
    cases h
    exact ⟨_, heq, rfl⟩
  · cases h

/-- A key set with a module of which `Q` holds as of the others. -/
theorem modules_setKey {Q : CryptoOps Priv → Prop} (h : ∀ idx, ∀ c ∈ d.cryptOps idx, Q c.1) {idx : KeyIdx}
    {crypt : Option (CryptData Priv)} (known : ∀ c ∈ crypt, ∀ ops ∈ c.ops, Q ops) (k : KeyIdx) :
    ∀ c ∈ { d with crypt := Function.update d.crypt idx crypt }.cryptOps k, Q c.1 := by
  intro c hc
  by_cases hk : k = idx
  · subst hk
    obtain ⟨data, hdata, hops⟩ := cryptOps_module hc
    have hslot : { d with crypt := Function.update d.crypt k crypt }.crypt k = crypt := Function.update_self ..
    rw [hslot] at hdata
    exact known data hdata c.1 hops
  · have hsame : { d with crypt := Function.update d.crypt idx crypt }.cryptOps k = d.cryptOps k := by
      unfold Device.cryptOps
      dsimp only
      rw [Function.update_of_ne hk]
    rw [hsame] at hc
    exact h k c hc

theorem sendReady_step (d : Device Priv) (i : SendInput prim) (h : SendReady prim d) :
    SendReady prim (i.step d) := by
  cases i with
  | frame env eth =>
    change SendReady prim (xmitTxb env d eth.skb).2.2
    rcases xmitTxb_dev env d eth.skb with heq | heq
    · rw [heq]
      exact h
    · rw [heq]
      exact xmitFragments_leaves h eth
  | mgmt =>
    refine ⟨⟨h.pool.size, h.pool.headroom, h.pool.clean, h.pool.unused⟩, h.modules, ?_⟩
    change (Device.nextSeqCtrl d.seqCtrl).toNat < 4096
    rw [nextSeqCtrl_toNat h.seq]
    exact Nat.mod_lt _ (by decide)
  | restart => exact ⟨⟨h.pool.size, h.pool.headroom, h.pool.clean, h.pool.unused⟩, h.modules, show 0 < 4096 by decide⟩
  | setFrag hwRadioOff request =>
    change SendReady prim (wxSetFrag d hwRadioOff request).2
    have hset : ∀ fts, SendReady prim { d with fts := fts } :=
      fun fts => ⟨⟨h.pool.size, h.pool.headroom, h.pool.clean, h.pool.unused⟩, h.modules, h.seq⟩
    unfold wxSetFrag
    split_ifs
    · exact h
    · cases request with
      | none => exact hset _
      | some value =>
        dsimp only
        split_ifs
        · exact hset _
        · exact h
  | setKey idx crypt known =>
    exact ⟨⟨h.pool.size, h.pool.headroom, h.pool.clean, h.pool.unused⟩, modules_setKey h.modules known, h.seq⟩
  | rest act =>
    have hpool : PoolReady (act.run d) := by
      refine ⟨?_, ?_, ?_, ?_⟩
      · rw [act.allocTxb_eq]
        exact h.pool.size
      · rw [act.allocTxb_eq]
        exact h.pool.headroom
      · unfold PoolClean
        rw [act.allocTxb_eq]
        exact h.pool.clean
      · rw [act.allocTxb_eq]
        exact h.pool.unused
    refine ⟨hpool, ?_, ?_⟩
    · exact all_modules (act.modules_eq d) h.modules
    · rw [SendInput.step, act.seqCtrl_eq]
      exact h.seq

/-- So is it ever after. -/
theorem sendReady_run (kernel : KernelConfig) (devAddr : Mac) (is : List (SendInput prim)) :
    SendReady prim (Run.run SendInput.step (Device.init Priv kernel devAddr) is) :=
  Run.inv_run (fun d i h _ => sendReady_step d i h) _ is (sendReady_init kernel devAddr) (Run.allSteps_true _ is)

/-- **Fragment sizing**: whatever the sender has met, the fragments of an Ethernet
frame fit their buffers and are numbered. -/
theorem fragments_sized (prim : Primitives) (kernel : KernelConfig) (devAddr : Mac)
    (is : List (SendInput prim)) (frame : EtherFrame) :
    FragmentSizing (Run.run SendInput.step (Device.init Priv kernel devAddr) is) frame.skb :=
  (sendReady_run kernel devAddr is).sizing frame

end

end Rtl8187
