/-
# What the fragments of a frame are

The loop of `ieee80211_xmit` cuts the SNAP header and the payload into pieces of
`bytes_per_frag` and puts a header in front of each (`plainFragment_data`). The
headers have the same addresses and sequence number; fragment number and
MoreFragments tell them apart.

Key definitions: `dataHdr`, `fragFc`, `fragSc`, `PoolClean`.
Key theorems: `plainFragment_data`, `xmitPlan_header`, `nrFrags_le`, `poolClean_xmitFragments`.
-/
import Rtl8187.Tx
import Rtl8187.FragCache
import Rtl8187.Lib.Chunks

namespace Rtl8187

open Bytes Chunks

variable {P : Type}

/-! ### The header -/

/-- A header with three addresses. -/
def dataHdr (fc : UInt16) (a1 a2 a3 : Mac) (sc : UInt16) : List UInt8 :=
  le16 fc ++ le16 0 ++ (a1.toList ++ a2.toList ++ a3.toList) ++ le16 sc

section

variable (fc : UInt16) (a1 a2 a3 : Mac) (sc : UInt16) (body : List UInt8)

@[simp] theorem length_dataHdr : (dataHdr fc a1 a2 a3 sc).length = dataHdr3Len := rfl

@[simp] theorem frameCtl_dataHdr : frameCtl (dataHdr fc a1 a2 a3 sc ++ body) = fc := mk16_hi8_lo8 fc

@[simp] theorem addr1_dataHdr : addr1 (dataHdr fc a1 a2 a3 sc ++ body) = a1 := rfl

@[simp] theorem addr2_dataHdr : addr2 (dataHdr fc a1 a2 a3 sc ++ body) = a2 := rfl

@[simp] theorem addr3_dataHdr : addr3 (dataHdr fc a1 a2 a3 sc ++ body) = a3 := rfl

@[simp] theorem seqCtl_dataHdr : seqCtl (dataHdr fc a1 a2 a3 sc ++ body) = sc := mk16_hi8_lo8 sc

end

/-- The frame control of a fragment: encrypted or not, to an access point or
not, with or without MoreFragments. -/
def fragFc (encrypt infra more : Bool) : UInt16 :=
  let fc := ftypeData ||| stypeData ||| (if encrypt then fctlWep else 0) ||| (if infra then fctlTods else 0)
  if more then fc ||| fctlMorefrags else fc

/-- Its flags. -/
theorem fragFc_flags : ∀ encrypt infra more : Bool, fcType (fragFc encrypt infra more) = ftypeData ∧
    fcStype (fragFc encrypt infra more) = stypeData ∧ isProtected (fragFc encrypt infra more) = encrypt ∧
    moreFrags (fragFc encrypt infra more) = more ∧
    dsBits (fragFc encrypt infra more) = (if infra then fctlTods else 0) ∧
    getHdrlen (fragFc encrypt infra more) = dataHdr3Len := by
  decide

/-- The sequence control of fragment `i`. -/
def fragSc (seq : UInt16) (i : ℕ) : UInt16 := seq <<< 4 ||| UInt16.ofNat i

theorem or_and (a b m : UInt16) : (a ||| b) &&& m = a &&& m ||| b &&& m :=
  UInt16.toBitVec_inj.mp BitVec.and_or_distrib_right

theorem shiftLeft_and_frag (seq : UInt16) : (seq <<< 4) &&& 0x000F = 0 := by
  apply UInt16.toNat_inj.mp
  have hmask : UInt16.toNat 0x000F = 2 ^ 4 - 1 := rfl
  have hfour : UInt16.toNat 4 % 16 = 4 := rfl
  rw [UInt16.toNat_and, hmask, Nat.and_two_pow_sub_one_eq_mod, UInt16.toNat_shiftLeft, hfour,
    Nat.shiftLeft_eq]
  change _ = 0
  omega

theorem fragSc_frag (seq : UInt16) {i : ℕ} (hi : i < 16) : (seqFrag (fragSc seq i)).toNat = i := by
  have hown : ∀ k : Fin 16, UInt16.ofNat k.val &&& 0x000F = UInt16.ofNat k.val := by decide
  have hval : (UInt16.ofNat i).toNat = i := UInt16.toNat_ofNat_of_lt (hi.trans (by decide))
  rw [seqFrag, fragSc, or_and, shiftLeft_and_frag, UInt16.zero_or, hown ⟨i, hi⟩, hval]

theorem fragSc_seq (seq : UInt16) {i : ℕ} (hi : i < 16) :
    seqSeq (fragSc seq i) = seqSeq (seq <<< 4) := by
  have hnone : ∀ k : Fin 16, UInt16.ofNat k.val &&& 0xFFF0 = 0 := by decide
  rw [seqSeq, fragSc, or_and, hnone ⟨i, hi⟩, UInt16.or_zero, seqSeq]

/-- The receiver, the transmitter and the third address; none in other modes. -/
def xmitMacs (d : Device P) (dest src : Mac) : Mac × Mac × Mac :=
  let bssid := d.currentNetwork.bssid
  match d.iwMode with
  | .infra => (bssid, src, dest)
  | .adhoc => (dest, src, bssid)
  | _ => (⟨0, 0, 0, 0, 0, 0⟩, ⟨0, 0, 0, 0, 0, 0⟩, ⟨0, 0, 0, 0, 0, 0⟩)

theorem xmitAddrs_eq (d : Device P) (dest src : Mac) : xmitAddrs d dest src =
    (xmitMacs d dest src).1.toList ++ (xmitMacs d dest src).2.1.toList ++
      (xmitMacs d dest src).2.2.toList := by
  unfold xmitAddrs xmitMacs
  cases d.iwMode <;> rfl

theorem xmitPlan_header (d : Device P) (skb : SkBuff) (i : ℕ) :
    let pl := xmitPlan d skb
    let macs := xmitMacs d (Mac.read skb.mem 0) (Mac.read skb.mem 6)
    pl.header i = dataHdr (fragFc pl.encrypt (d.iwMode == .infra) (i + 1 != pl.nrFrags))
      macs.1 macs.2.1 macs.2.2 (fragSc d.seqCtrl i) := by
  intro pl macs
  have hfc : (if i + 1 = pl.nrFrags then pl.fc else pl.fc ||| fctlMorefrags) =
      fragFc pl.encrypt (d.iwMode == .infra) (i + 1 != pl.nrFrags) := by
    have hbase : pl.fc = fragFc pl.encrypt (d.iwMode == .infra) false := by
      change xmitFc d pl.encrypt = _
      unfold xmitFc fragFc
      simp
    unfold fragFc at hbase ⊢
    rw [hbase]
    by_cases hlast : i + 1 = pl.nrFrags
    · simp [hlast]
    · simp [hlast]
  have haddrs : pl.addrs = macs.1.toList ++ macs.2.1.toList ++ macs.2.2.toList := xmitAddrs_eq d _ _
  unfold XmitPlan.header dataHdr
  rw [hfc, haddrs]
  rfl

/-! ### The pieces -/

section

variable {d : Device P} {skb : SkBuff}

/-- What the fragments carry: the SNAP header and the payload. -/
def xmitBody (skb : SkBuff) : List UInt8 := putSnap (etherType skb) ++ (xmitPayload skb).data

theorem length_xmitBody : (xmitBody skb).length = (xmitPayload skb).len + snapLen := by
  rw [xmitBody, List.length_append, length_putSnap, Nat.add_comm]
  rfl

/-- A fragment has room for a good deal of payload. -/
theorem bytesPerFrag_ge (d : Device P) (encrypt : Bool) (dest : Mac) :
    208 ≤ bytesPerFrag d encrypt dest := by
  have hfts := d.fts.min_le
  have hextra : (if encrypt then d.txCrypt.elim 0 (·.1.extraLen) else 0) ≤ 20 := by
    split_ifs
    · cases d.txCrypt with
      | none => exact Nat.zero_le _
      | some c => exact c.1.extra_le
    · exact Nat.zero_le _
  have hfcs : (if d.configFcs then fcsLen else 0) ≤ 4 := by
    split_ifs
    · exact le_rfl
    · exact Nat.zero_le _
  unfold bytesPerFrag dataHdr3Len maxFragThreshold
  dsimp only
  split_ifs at hextra hfcs ⊢ <;> omega

/-- The fragments make up the body: all but the last are full. -/
theorem xmitPlan_count (d : Device P) (skb : SkBuff) :
    let pl := xmitPlan d skb
    0 < pl.nrFrags ∧ (pl.nrFrags - 1) * pl.bytesPerFrag + pl.bytesLastFrag = (xmitBody skb).length ∧
      pl.bytesLastFrag ≤ pl.bytesPerFrag := by
  intro pl
  have hper : 0 < pl.bytesPerFrag := lt_of_lt_of_le (by decide) (bytesPerFrag_ge d pl.encrypt _)
  rw [length_xmitBody]
  exact count_pos hper (Nat.add_pos_right _ (by decide)) rfl rfl

/-- They have room for all of it. -/
theorem length_xmitBody_le (d : Device P) (skb : SkBuff) :
    (xmitBody skb).length ≤ (xmitPlan d skb).nrFrags * (xmitPlan d skb).bytesPerFrag := by
  obtain ⟨hpos, hsum, hlast⟩ := xmitPlan_count d skb
  obtain ⟨n, hn⟩ := Nat.exists_eq_succ_of_ne_zero hpos.ne'
  rw [hn, Nat.succ_sub_one] at hsum
  rw [hn, Nat.succ_mul]
  omega

/-- No frame of an Ethernet has more fragments than a TXB has buffers. -/
theorem nrFrags_le (hlen : (xmitPayload skb).len ≤ 1500) : (xmitPlan d skb).nrFrags ≤ 8 := by
  obtain ⟨hpos, hsum, hlast⟩ := xmitPlan_count d skb
  have hper : 208 ≤ (xmitPlan d skb).bytesPerFrag := bytesPerFrag_ge d _ _
  rw [length_xmitBody] at hsum
  by_contra hmany
  have hmul : 8 * 208 ≤ ((xmitPlan d skb).nrFrags - 1) * (xmitPlan d skb).bytesPerFrag :=
    Nat.mul_le_mul (by omega) hper
  unfold snapLen at hsum
  omega

/-- A fragment takes what it has room for, or what is left. -/
theorem xmitPlan_bytes {i : ℕ} (hi : i < (xmitPlan d skb).nrFrags) :
    let per := (xmitPlan d skb).bytesPerFrag
    let full := per - (if i = 0 then snapLen else 0)
    (xmitPlan d skb).bytes i = min full ((xmitPayload skb).len - (i * per - snapLen)) ∧
      (i + 1 < (xmitPlan d skb).nrFrags → (xmitPlan d skb).bytes i = full ∧
        i * per - snapLen + full = (i + 1) * per - snapLen) := by
  intro per full
  obtain ⟨-, hsum, hlast⟩ := xmitPlan_count d skb
  have hper : 208 ≤ per := bytesPerFrag_ge d _ _
  have hsnap : snapLen = 8 := rfl
  have hone : i ≠ 0 → per ≤ i * per := fun hne => Nat.le_mul_of_pos_left _ (Nat.pos_of_ne_zero hne)
  have hfull : full = if i = 0 then per - snapLen else per := by
    by_cases hzero : i = 0
    · simp [full, hzero]
    · simp [full, hzero]
  rw [length_xmitBody] at hsum
  by_cases hend : i + 1 = (xmitPlan d skb).nrFrags
  · have hbytes : (xmitPlan d skb).bytes i =
        (xmitPlan d skb).bytesLastFrag - (if i = 0 then snapLen else 0) := by
      rw [XmitPlan.bytes, if_pos hend]
    have hi' : (xmitPlan d skb).nrFrags - 1 = i := by omega
    rw [hi'] at hsum
    change i * per + _ = _ at hsum
    refine ⟨?_, fun hlt => absurd hend hlt.ne⟩
    rw [hbytes, hfull]
    by_cases hzero : i = 0
    · subst hzero
      rw [if_pos rfl, if_pos rfl]
      change _ ≤ per at hlast
      omega
    · have hle := hone hzero
      rw [if_neg hzero, if_neg hzero]
      change _ ≤ per at hlast
      omega
  · have hbytes : (xmitPlan d skb).bytes i = full := by
      rw [XmitPlan.bytes, if_neg hend]
    have hmul : (i + 1) * per ≤ ((xmitPlan d skb).nrFrags - 1) * per :=
      Nat.mul_le_mul_right per (by omega)
    change _ * per + _ = _ at hsum
    rw [Nat.succ_mul] at hmul
    rw [hbytes, hfull, Nat.succ_mul]
    by_cases hzero : i = 0
    · subst hzero
      rw [if_pos rfl]
      omega
    · have hle := hone hzero
      rw [if_neg hzero]
      omega

/-- What is left of the payload before fragment `i`. -/
theorem restAt_data : ∀ {i : ℕ}, i < (xmitPlan d skb).nrFrags →
    (restAt (xmitPlan d skb) (xmitPayload skb) i).data =
      (xmitPayload skb).data.drop (i * (xmitPlan d skb).bytesPerFrag - snapLen)
  | 0, _ => by simp [restAt]
  | i + 1, hi => by
    have ih := @restAt_data i (by omega)
    obtain ⟨hbytes, hmore⟩ := @xmitPlan_bytes P d skb i (by omega)
    obtain ⟨hfull, hnext⟩ := hmore hi
    have hlen : (xmitPlan d skb).bytes i ≤ (restAt (xmitPlan d skb) (xmitPayload skb) i).len := by
      unfold SkBuff.len at hbytes ⊢
      rw [hbytes, ih, List.length_drop]
      exact min_le_right _ _
    rw [restAt, SkBuff.pull_data hlen, ih, List.drop_drop, hfull, hnext]

/-- **A fragment before its encryption**: a header, and a piece of the body. -/
theorem plainFragment_data {i : ℕ} (hi : i < (xmitPlan d skb).nrFrags)
    (hclean : (poolFragments d i).data = []) :
    (plainFragment (xmitPlan d skb) (xmitPayload skb) (poolFragments d) i).data =
      (xmitPlan d skb).header i ++ chunk (xmitPlan d skb).bytesPerFrag (xmitBody skb) i := by
  set pl := xmitPlan d skb with hpl
  have hper : 208 ≤ pl.bytesPerFrag := bytesPerFrag_ge d _ _
  obtain ⟨hbytes, -⟩ := @xmitPlan_bytes P d skb i hi
  have hrest := @restAt_data P d skb i hi
  rw [← hpl] at hbytes hrest
  -- what is read of the payload is in it
  have htake : (restAt pl (xmitPayload skb) i).mem.take (pl.bytes i) =
      ((xmitPayload skb).data.drop (i * pl.bytesPerFrag - snapLen)).take
        (pl.bytesPerFrag - (if i = 0 then snapLen else 0)) := by
    have hle : pl.bytes i ≤ ((xmitPayload skb).data.drop (i * pl.bytesPerFrag - snapLen)).length := by
      rw [hbytes, List.length_drop]
      exact min_le_right _ _
    rw [SkBuff.mem, hrest, List.take_append_of_le_length hle, List.take_eq_take_iff, hbytes,
      List.length_drop]
    exact min_assoc _ _ _ |>.trans (by rw [SkBuff.len, min_self])
  have hchunk : pl.snap i ++ (restAt pl (xmitPayload skb) i).mem.take (pl.bytes i) =
      chunk pl.bytesPerFrag (xmitBody skb) i := by
    have hsnap : snapLen = 8 := rfl
    rw [htake, chunk, xmitBody, List.drop_append, length_putSnap]
    by_cases hzero : i = 0
    · subst hzero
      have hfirst : (putSnap (etherType skb)).take pl.bytesPerFrag = putSnap (etherType skb) :=
        List.take_of_length_le (by rw [length_putSnap]; omega)
      rw [Nat.zero_mul, Nat.zero_sub, List.drop_zero, List.drop_zero, List.take_append,
        length_putSnap, hfirst, XmitPlan.snap, if_pos rfl, if_pos rfl]
      rfl
    · have hone : pl.bytesPerFrag ≤ i * pl.bytesPerFrag :=
        Nat.le_mul_of_pos_left _ (Nat.pos_of_ne_zero hzero)
      have hdrop : (putSnap (etherType skb)).drop (i * pl.bytesPerFrag) = [] :=
        List.drop_of_length_le (by rw [length_putSnap]; omega)
      rw [hdrop, XmitPlan.snap, if_neg hzero, if_neg hzero]
      rfl
  unfold plainFragment buildFragment
  dsimp only
  rw [← hchunk]
  split_ifs <;> simp [hclean]

theorem length_chunk_xmitBody {i : ℕ} (hi : i < (xmitPlan d skb).nrFrags) :
    (chunk (xmitPlan d skb).bytesPerFrag (xmitBody skb) i).length =
      if i + 1 = (xmitPlan d skb).nrFrags then (xmitPlan d skb).bytesLastFrag
      else (xmitPlan d skb).bytesPerFrag := by
  obtain ⟨-, hsum, hlast⟩ := xmitPlan_count d skb
  rw [length_chunk, ← hsum]
  by_cases hend : i + 1 = (xmitPlan d skb).nrFrags
  · have hi' : (xmitPlan d skb).nrFrags - 1 = i := by omega
    rw [if_pos hend, hi', Nat.add_sub_cancel_left, min_eq_right hlast]
  · have hmul : (i + 1) * (xmitPlan d skb).bytesPerFrag ≤
        ((xmitPlan d skb).nrFrags - 1) * (xmitPlan d skb).bytesPerFrag :=
      Nat.mul_le_mul_right _ (by omega)
    rw [Nat.succ_mul] at hmul
    rw [if_neg hend]
    omega

end

/-! ### The buffers of the pool -/

/-- A buffer of an entry of the pool that its last use left out is empty. -/
def PoolClean (d : Device P) : Prop :=
  ∀ idx i, (d.allocTxb idx).nrFrags ≤ i → ((d.allocTxb idx).fragments i).data = []

theorem poolClean_init (kernel : KernelConfig) (devAddr : Mac) :
    PoolClean (Device.init P kernel devAddr) := fun _ _ _ => rfl

/-- So the buffers are empty when a frame is built in them. -/
theorem PoolClean.poolFragments {d : Device P} (h : PoolClean d) (i : ℕ) :
    (poolFragments d i).data = [] := by
  unfold Rtl8187.poolFragments
  split_ifs with hi
  · rfl
  · exact h d.txSkbIndex i (not_lt.mp hi)

/-- A frame leaves it so. -/
theorem poolClean_xmitFragments {d : Device P} (h : PoolClean d) (skb : SkBuff) :
    PoolClean (xmitFragments d skb).2 := by
  intro idx i hi
  have hdev : (xmitFragments d skb).2.allocTxb =
      Function.update d.allocTxb d.txSkbIndex (xmitFragments d skb).1 := rfl
  rw [hdev] at hi ⊢
  by_cases hidx : idx = d.txSkbIndex
  · subst hidx
    rw [Function.update_self] at hi ⊢
    have hout : ¬ i < (xmitPlan d skb).nrFrags := not_lt.mpr hi
    rw [xmitFragments_fragments, if_neg hout]
    exact h.poolFragments i
  · rw [Function.update_of_ne hidx] at hi ⊢
    exact h idx i hi

end Rtl8187
