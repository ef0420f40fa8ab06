/-
# The bytes the ciphers touch

The decryption of `ieee80211_rx` in its four modules, with the bytes of the
frame they touch and the lengths they subtract. The three that open a single
frame check the length first, CCMP after it has computed the length of the
payload. `ieee80211_michael_mic_verify` does not check it at all, and comes
after `ieee80211_tkip_decrypt` has taken its twelve bytes off: eight more have
to be left behind the header (`verify_after_decrypt`). A frame they refuse stays
where it was and as long, so `ieee80211_rx` may print its sender.

Key definitions: `DecryptCall`, `Sound`, `LongEnough`, `PassedOn`.
Key theorems: `sound_iff`, `verify_after_decrypt`, `tkip_short_payload`,
`mpduDropReads_module`.
-/
import Rtl8187.RxReads
import Rtl8187.CryptTable
import Rtl8187.Digest

namespace Rtl8187

open Bytes

/-! ### The routines with their accesses -/

/-- The `n` bytes of the frame from `i` on are read or written. -/
def touch (skb : SkBuff) (i n : ℕ) : Traced Unit := readFrame skb i n ()

/-- The header moved over the `n` bytes of the IV, which are pulled, and the last
`m` bytes trimmed. -/
def touchStrip (skb : SkBuff) (hdrLen n m : ℕ) : Traced Unit := do
  touch skb 0 hdrLen
  touch skb n hdrLen
  Traced.sub (skb.len - n) m

section

variable (prim : Primitives) (skb : SkBuff) (hdrLen : ℕ)

/-- `prism2_wep_decrypt` -/
def readPrism2WepDecrypt (wep : WepData) : Traced (CryptRes WepData) :=
  if skb.len < hdrLen + 8 then pure ⟨-1, skb, wep⟩
  else do
    touch skb hdrLen 4
    if keyIdxOf (at8 skb.data (hdrLen + 3)) ≠ wep.keyIdx then pure ⟨-1, skb, wep⟩
    else do
      Traced.sub skb.len hdrLen
      Traced.sub (skb.len - hdrLen) 8
      let plen := skb.len - hdrLen - 8
      touch skb (hdrLen + 4) (plen + 4)
      touch skb (hdrLen + 4) plen
      touch skb (hdrLen + 4 + plen) 4
      let res := prism2WepDecrypt prim skb hdrLen wep
      (if res.ret = 0 then touchStrip skb hdrLen 4 4 else pure ())
      pure res

/-- `ieee80211_tkip_decrypt`. The log of a frame without ExtIV or key names its
sender. -/
def readTkipDecrypt (tkey : TkipData) : Traced (CryptRes TkipData) :=
  if skb.len < hdrLen + 8 + 4 then pure ⟨-1, skb, tkey⟩
  else do
    touch skb (hdrLen + 3) 1
    let keyByte := at8 skb.data (hdrLen + 3)
    if keyByte &&& extIv = 0 then do
      touch skb 10 6
      pure ⟨-2, skb, tkey⟩
    else if keyIdxOf keyByte ≠ tkey.keyIdx then pure ⟨-6, skb, tkey⟩
    else if !tkey.keySet then do
      touch skb 10 6
      pure ⟨-3, skb, tkey⟩
    else do
      touch skb hdrLen 8
      (if hdrIv32 skb.data hdrLen ≠ tkey.rxIv32 ∨ !tkey.rxPhase1Done then touch skb 10 6 else pure ())
      Traced.sub skb.len hdrLen
      Traced.sub (skb.len - hdrLen) 12
      let plen := skb.len - hdrLen - 12
      touch skb (hdrLen + 8) (plen + 4)
      touch skb (hdrLen + 8) plen
      touch skb (hdrLen + 8 + plen) 4
      let res := tkipDecrypt prim skb hdrLen tkey
      (if res.ret = -5 then touch skb 10 6 else touchStrip skb hdrLen 8 4)
      pure res

/-- `ccmp_init_blocks`. The sequence control gives its lower byte. -/
def touchInitBlocks : Traced Unit := do
  touch skb 0 2
  let fc := frameCtl skb.data
  let a4 := dsBits fc = fctlTods ||| fctlFromds
  (if fcType fc = ftypeData ∧ fcStype fc &&& 0x80 ≠ 0 then touch skb (if a4 then 30 else 24) 1
    else pure ())
  touch skb 10 6
  touch skb 0 2
  touch skb 4 18
  touch skb 22 1
  if a4 then touch skb 24 6 else pure ()

/-- The loop over the `blocks` left of a payload of `dataLen` bytes, the next of
which is at `pos`. -/
def touchBlocks (dataLen : ℕ) : ℕ → ℕ → Traced Unit
  | 0, _ => pure ()
  | blocks + 1, pos => do
    let last := dataLen % Ccm.blockLen
    let len := if blocks = 0 ∧ last ≠ 0 then last else Ccm.blockLen
    touch skb pos len
    touch skb pos len
    touchBlocks dataLen blocks (pos + len)

/-- `ieee80211_ccmp_decrypt`. The length of the payload is computed before the
length of the frame is checked. -/
def readCcmpDecrypt (key : CcmpData) : Traced (CryptRes CcmpData) := do
  Traced.sub skb.len hdrLen
  Traced.sub (skb.len - hdrLen) ccmpHdrLen
  Traced.sub (skb.len - hdrLen - ccmpHdrLen) ccmpMicLen
  let dataLen := skb.len - hdrLen - ccmpHdrLen - ccmpMicLen
  if skb.len < hdrLen + ccmpHdrLen + ccmpMicLen then
    pure ⟨-1, skb, { key with formatErrors := key.formatErrors + 1 }⟩
  else do
    touch skb (hdrLen + 3) 1
    let keyByte := at8 skb.data (hdrLen + 3)
    if keyByte &&& extIv = 0 then do
      touch skb 10 6
      pure ⟨-2, skb, { key with formatErrors := key.formatErrors + 1 }⟩
    else if keyIdxOf keyByte ≠ key.keyIdx then pure ⟨-6, skb, key⟩
    else if !key.keySet then do
      touch skb 10 6
      pure ⟨-3, skb, key⟩
    else do
      touch skb hdrLen 8
      touchInitBlocks skb
      touch skb (skb.len - ccmpMicLen) ccmpMicLen
      touchBlocks skb dataLen (Ccm.blocks dataLen) (hdrLen + ccmpHdrLen)
      touch skb (skb.len - ccmpMicLen) ccmpMicLen
      let res := ccmpDecrypt prim skb hdrLen key
      (if res.ret = -5 then touch skb 10 6 else touchStrip skb hdrLen ccmpHdrLen ccmpMicLen)
      pure res

/-- `michael_mic_hdr` -/
def touchMichaelMicHdr : Traced Unit := do
  touch skb 0 2
  let ds := dsBits (frameCtl skb.data)
  if ds = fctlTods then do
    touch skb 16 6
    touch skb 10 6
  else if ds = fctlFromds then do
    touch skb 4 6
    touch skb 16 6
  else if ds = fctlFromds ||| fctlTods then do
    touch skb 16 6
    touch skb 24 6
  else do
    touch skb 4 6
    touch skb 10 6

/-- `ieee80211_michael_mic_verify`. The event of a failure names the addresses. -/
def readMichaelMicVerify (keyidx : Int) (tkey : TkipData) : Traced (CryptRes TkipData) :=
  if !tkey.keySet then pure ⟨-1, skb, tkey⟩
  else do
    touchMichaelMicHdr skb
    Traced.sub skb.len michaelMicLen
    Traced.sub (skb.len - michaelMicLen) hdrLen
    touch skb hdrLen (micDataLen skb.len hdrLen)
    touch skb (skb.len - michaelMicLen) michaelMicLen
    let res := michaelMicVerify prim skb keyidx hdrLen tkey
    (if res.ret < 0 then touch skb 4 12 else Traced.sub skb.len michaelMicLen)
    pure res

end

/-! ### They compute what the routines do -/

section

variable (prim : Primitives) (skb : SkBuff) (hdrLen : ℕ)

theorem readPrism2WepDecrypt_value (wep : WepData) :
    (readPrism2WepDecrypt prim skb hdrLen wep).value = prism2WepDecrypt prim skb hdrLen wep := by
  unfold readPrism2WepDecrypt
  by_cases hlen : skb.len < hdrLen + 8
  · rw [if_pos hlen, prism2WepDecrypt, if_pos hlen, Traced.value_pure]
  rw [if_neg hlen, Traced.value_bind]
  by_cases hidx : keyIdxOf (at8 skb.data (hdrLen + 3)) ≠ wep.keyIdx
  · rw [if_pos hidx, prism2WepDecrypt, if_neg hlen, if_pos hidx, Traced.value_pure]
  · rw [if_neg hidx]
    rfl

theorem readTkipDecrypt_value (tkey : TkipData) :
    (readTkipDecrypt prim skb hdrLen tkey).value = tkipDecrypt prim skb hdrLen tkey := by
  unfold readTkipDecrypt
  by_cases hlen : skb.len < hdrLen + 8 + 4
  · rw [if_pos hlen, tkipDecrypt, if_pos hlen, Traced.value_pure]
  rw [if_neg hlen, Traced.value_bind]
  by_cases hext : at8 skb.data (hdrLen + 3) &&& extIv = 0
  · rw [if_pos hext, tkipDecrypt, if_neg hlen, if_pos hext]
    rfl
  rw [if_neg hext]
  by_cases hidx : keyIdxOf (at8 skb.data (hdrLen + 3)) ≠ tkey.keyIdx
  · rw [if_pos hidx, tkipDecrypt, if_neg hlen, if_neg hext, if_pos hidx, Traced.value_pure]
  rw [if_neg hidx]
  by_cases hset : (!tkey.keySet) = true
  · rw [if_pos hset, tkipDecrypt, if_neg hlen, if_neg hext, if_neg hidx, if_pos hset]
    rfl
  · rw [if_neg hset]
    rfl

theorem readCcmpDecrypt_value (key : CcmpData) :
    (readCcmpDecrypt prim skb hdrLen key).value = ccmpDecrypt prim skb hdrLen key := by
  unfold readCcmpDecrypt
  rw [Traced.value_bind, Traced.value_bind, Traced.value_bind]
  by_cases hlen : skb.len < hdrLen + ccmpHdrLen + ccmpMicLen
  · rw [if_pos hlen, ccmpDecrypt, if_pos hlen, Traced.value_pure]
  rw [if_neg hlen, Traced.value_bind]
  by_cases hext : at8 skb.data (hdrLen + 3) &&& extIv = 0
  · rw [if_pos hext, ccmpDecrypt, if_neg hlen, if_pos hext]
    rfl
  rw [if_neg hext]
  by_cases hidx : keyIdxOf (at8 skb.data (hdrLen + 3)) ≠ key.keyIdx
  · rw [if_pos hidx, ccmpDecrypt, if_neg hlen, if_neg hext, if_pos hidx, Traced.value_pure]
  rw [if_neg hidx]
  by_cases hset : (!key.keySet) = true
  · rw [if_pos hset, ccmpDecrypt, if_neg hlen, if_neg hext, if_neg hidx, if_pos hset]
    rfl
  · rw [if_neg hset]
    rfl

theorem readMichaelMicVerify_value (keyidx : Int) (tkey : TkipData) :
    (readMichaelMicVerify prim skb hdrLen keyidx tkey).value =
      michaelMicVerify prim skb keyidx hdrLen tkey := by
  unfold readMichaelMicVerify
  by_cases hset : (!tkey.keySet) = true
  · rw [if_pos hset, michaelMicVerify, if_pos hset, Traced.value_pure]
  · rw [if_neg hset]
    rfl

end

/-! ### What they refuse stays in place -/

section

variable {prim : Primitives} {skb : SkBuff} {hdrLen : ℕ}

/-- The bytes from `n` on were replaced by as many. -/
theorem replaced_len {n : ℕ} {rest : List UInt8} (hn : n ≤ skb.len) (hrest : rest.length = skb.len - n) :
    ({ skb with data := skb.data.take n ++ rest } : SkBuff).len = skb.len := by
  unfold SkBuff.len at hn hrest ⊢
  rw [List.length_append, List.length_take, hrest]
  omega

theorem prism2WepDecrypt_inPlace {wep : WepData} (h : (prism2WepDecrypt prim skb hdrLen wep).ret < 0) :
    (prism2WepDecrypt prim skb hdrLen wep).skb.headroom = skb.headroom ∧
      (prism2WepDecrypt prim skb hdrLen wep).skb.len = skb.len := by
  unfold prism2WepDecrypt at h ⊢
  dsimp only at h ⊢
  split_ifs at h ⊢ with hshort
  · exact ⟨rfl, rfl⟩
  · exact ⟨rfl, rfl⟩
  · refine ⟨rfl, replaced_len (by omega) ?_⟩
    rw [length_arc4Crypt, List.length_drop]
    rfl
  · exact absurd h (by simp)

theorem tkipDecrypt_inPlace {tkey : TkipData} (h : (tkipDecrypt prim skb hdrLen tkey).ret < 0) :
    (tkipDecrypt prim skb hdrLen tkey).skb.headroom = skb.headroom ∧
      (tkipDecrypt prim skb hdrLen tkey).skb.len = skb.len := by
  unfold tkipDecrypt at h ⊢
  dsimp only at h ⊢
  split_ifs at h ⊢ with hshort
  · exact ⟨rfl, rfl⟩
  · exact ⟨rfl, rfl⟩
  · exact ⟨rfl, rfl⟩
  · exact ⟨rfl, rfl⟩
  · refine ⟨rfl, replaced_len (by omega) ?_⟩
    rw [length_arc4Crypt, List.length_drop]
    rfl
  · exact absurd h (by simp)

theorem ccmpDecrypt_inPlace {key : CcmpData} (h : (ccmpDecrypt prim skb hdrLen key).ret < 0) :
    (ccmpDecrypt prim skb hdrLen key).skb.headroom = skb.headroom ∧
      (ccmpDecrypt prim skb hdrLen key).skb.len = skb.len := by
  unfold ccmpDecrypt at h ⊢
  dsimp only at h ⊢
  split_ifs at h ⊢ with hshort
  · exact ⟨rfl, rfl⟩
  · exact ⟨rfl, rfl⟩
  · exact ⟨rfl, rfl⟩
  · exact ⟨rfl, rfl⟩
  · have hdata : skb.data.length =
        hdrLen + ccmpHdrLen + (skb.len - hdrLen - ccmpHdrLen - ccmpMicLen) + ccmpMicLen := by
      unfold SkBuff.len at hshort ⊢
      omega
    refine ⟨rfl, replaced_len (by omega) ?_⟩
    rw [List.length_append, length_ccmpOpen prim key.tfm hdata, length_ccmpOpen_mic prim key.tfm hdata]
    omega
  · exact absurd h (by simp)

theorem michaelMicVerify_inPlace {keyidx : Int} {tkey : TkipData}
    (h : (michaelMicVerify prim skb keyidx hdrLen tkey).ret < 0) :
    (michaelMicVerify prim skb keyidx hdrLen tkey).skb = skb := by
  unfold michaelMicVerify at h ⊢
  dsimp only at h ⊢
  split_ifs at h ⊢
  · rfl
  · rfl
  · exact absurd h (by simp)

/-- A frame shorter than its first four bytes behind the header gives `-1`. -/
theorem onPriv_icv {D : Type} {get : Priv → Option D} {mk : D → Priv} {op : MpduOp D} {priv : Priv}
    (hop : ∀ d, skb.len < hdrLen + 4 → (op skb hdrLen d).ret = -1)
    (h : (onPriv get mk op skb hdrLen priv).ret = -2) : hdrLen + 4 ≤ skb.len := by
  by_contra hshort
  have hret : (onPriv get mk op skb hdrLen priv).ret = -1 := by
    unfold onPriv
    cases get priv with
    | none => rfl
    | some d => exact hop d (not_le.mp hshort)
  rw [hret] at h
  exact absurd h (by decide)

/-- The modules of the driver fail in place. -/
theorem module_failsInPlace {ops : CryptoOps Priv}
    (h : ops ∈ [nullOps, wepOps prim, tkipOps prim, ccmpOps prim]) : ops.FailsInPlace := by
  simp only [List.mem_cons, List.not_mem_nil, or_false] at h
  rcases h with rfl | rfl | rfl | rfl
  · exact ⟨nofun, nofun, nofun⟩
  · refine ⟨?_, ?_, nofun⟩
    · rintro _ ⟨⟩ skb hdrLen priv hret
      exact onPriv_fail (fun b => b.headroom = skb.headroom ∧ b.len = skb.len)
        (fun d hd => prism2WepDecrypt_inPlace hd) ⟨rfl, rfl⟩ hret
    · rintro _ ⟨⟩ skb hdrLen priv hret
      apply onPriv_icv (fun d hshort => ?_) hret
      rw [prism2WepDecrypt, if_pos (by omega)]
  · refine ⟨?_, ?_, ?_⟩
    · rintro _ ⟨⟩ skb hdrLen priv hret
      exact onPriv_fail (fun b => b.headroom = skb.headroom ∧ b.len = skb.len)
        (fun d hd => tkipDecrypt_inPlace hd) ⟨rfl, rfl⟩ hret
    · rintro _ ⟨⟩ skb hdrLen priv hret
      apply onPriv_icv (fun d hshort => ?_) hret
      rw [tkipDecrypt, if_pos (by omega)]
    · rintro _ ⟨⟩ skb keyidx hdrLen priv hret
      refine onPriv_fail (fun b => b.headroom = skb.headroom ∧ b.len = skb.len) (fun d hd => ?_)
        ⟨rfl, rfl⟩ hret
      rw [michaelMicVerify_inPlace hd]
      exact ⟨rfl, rfl⟩
  · refine ⟨?_, ?_, nofun⟩
    · rintro _ ⟨⟩ skb hdrLen priv hret
      exact onPriv_fail (fun b => b.headroom = skb.headroom ∧ b.len = skb.len)
        (fun d hd => ccmpDecrypt_inPlace hd) ⟨rfl, rfl⟩ hret
    · rintro _ ⟨⟩ skb hdrLen priv hret
      apply onPriv_icv (fun d hshort => ?_) hret
      rw [ccmpDecrypt, if_pos (by unfold ccmpHdrLen ccmpMicLen; omega)]

/-- **What `ieee80211_rx` prints of a frame that did not decrypt** is in the frame,
with the modules of the driver. -/
theorem mpduDropReads_module {d : Device Priv} {slot : Option KeyIdx}
    (h : ∀ c ∈ d.slotOps slot, c.2.1 ∈ [nullOps, wepOps prim, tkipOps prim, ccmpOps prim])
    (level : UInt32) (hlen : 16 ≤ skb.len) : MpduDropReads level d skb slot :=
  mpduDropReads_of_inPlace (fun c hc => module_failsInPlace (h c hc)) level hlen

theorem msduDropReads_module {d : Device Priv} {slot : Option KeyIdx}
    (h : ∀ c ∈ d.slotOps slot, c.2.1 ∈ [nullOps, wepOps prim, tkipOps prim, ccmpOps prim])
    (keyidx : Int) (hlen : 16 ≤ skb.len) : MsduDropReads d skb keyidx slot :=
  msduDropReads_of_inPlace (fun c hc => module_failsInPlace (h c hc)) keyidx hlen

end

/-! ### Where they stay inside the frame -/

section

variable {skb : SkBuff}

theorem touch_safe {i n : ℕ} (h : i + n ≤ skb.len) : (touch skb i n).All Access.Safe :=
  readFrame_safe skb () h

theorem touchStrip_safe {hdrLen n m : ℕ} (h : hdrLen + n + m ≤ skb.len) :
    (touchStrip skb hdrLen n m).All Access.Safe := by
  unfold touchStrip
  rw [Traced.all_bind, Traced.all_bind, Traced.all_sub]
  refine ⟨touch_safe (by omega), touch_safe (by omega), ?_⟩
  show m ≤ skb.len - n
  omega

/-- The blocks left cover the `rest` of the payload, and only the last of them is
short. -/
theorem touchBlocks_safe (dataLen : ℕ) : ∀ blocks pos rest : ℕ, blocks = Ccm.blocks rest →
    (0 < blocks → rest % Ccm.blockLen = dataLen % Ccm.blockLen) → pos + rest ≤ skb.len →
      (touchBlocks skb dataLen blocks pos).All Access.Safe
  | 0, _, _, _, _, _ => Traced.pure_all _
  | blocks + 1, pos, rest, hblocks, hmod, hlen => by
    replace hmod := hmod (Nat.succ_pos blocks)
    unfold Ccm.blocks Ccm.blockLen at *
    have hlast : (if blocks = 0 ∧ dataLen % 16 ≠ 0 then dataLen % 16 else 16) = min rest 16 := by
      split_ifs with h
      · omega
      · omega
    unfold touchBlocks
    dsimp only
    rw [Traced.all_bind, Traced.all_bind, Ccm.blockLen, hlast]
    have hinside : pos + min rest 16 ≤ skb.len := by omega
    refine ⟨touch_safe hinside, touch_safe hinside, ?_⟩
    apply touchBlocks_safe dataLen blocks (pos + min rest 16) (rest - min rest 16)
    · unfold Ccm.blocks Ccm.blockLen
      omega
    · unfold Ccm.blockLen
      omega
    · omega

variable {prim : Primitives} {hdrLen : ℕ}

/-- WEP checks the length before it touches anything. -/
theorem readPrism2WepDecrypt_safe (wep : WepData) :
    (readPrism2WepDecrypt prim skb hdrLen wep).All Access.Safe := by
  unfold readPrism2WepDecrypt
  rw [Traced.all_ite]
  refine ⟨fun _ => Traced.pure_all _, fun hlen => ?_⟩
  rw [Traced.all_bind, Traced.all_ite]
  refine ⟨touch_safe (by omega), fun _ => Traced.pure_all _, fun _ => ?_⟩
  simp only [Traced.all_bind, Traced.all_sub, Traced.all_pure, Traced.all_ite, and_true, implies_true]
  have hsub : Access.Safe (.sub skb.len hdrLen) ∧ Access.Safe (.sub (skb.len - hdrLen) 8) := by
    unfold Access.Safe
    omega
  exact ⟨hsub.1, hsub.2, touch_safe (by omega), touch_safe (by omega), touch_safe (by omega),
    fun _ => touchStrip_safe (by omega)⟩

/-- TKIP checks the length as well; the header has a transmitter address. -/
theorem readTkipDecrypt_safe (hhdr : dataHdr3Len ≤ skb.len) (tkey : TkipData) :
    (readTkipDecrypt prim skb hdrLen tkey).All Access.Safe := by
  unfold dataHdr3Len at hhdr
  have hta : (touch skb 10 6).All Access.Safe := touch_safe (by omega)
  unfold readTkipDecrypt
  rw [Traced.all_ite]
  refine ⟨fun _ => Traced.pure_all _, fun hlen => ?_⟩
  simp only [Traced.all_bind, Traced.all_sub, Traced.all_pure, Traced.all_ite, and_true, implies_true,
    true_and, hta]
  refine ⟨touch_safe (by omega), fun _ _ _ => ?_⟩
  have hsub : Access.Safe (.sub skb.len hdrLen) ∧ Access.Safe (.sub (skb.len - hdrLen) 12) := by
    unfold Access.Safe
    omega
  exact ⟨touch_safe (by omega), hsub.1, hsub.2, touch_safe (by omega), touch_safe (by omega),
    touch_safe (by omega), fun _ => touchStrip_safe (by omega)⟩

/-- The header fields of the blocks, in a frame with room for its overhead. -/
theorem touchInitBlocks_safe (hhdr : dataHdr3Len ≤ skb.len)
    (hwds : dsBits (frameCtl skb.data) = fctlFromds ||| fctlTods → dataHdr4Len ≤ skb.len)
    (hlen : getHdrlen (frameCtl skb.data) + 16 ≤ skb.len) : (touchInitBlocks skb).All Access.Safe := by
  unfold dataHdr3Len at hhdr
  unfold touchInitBlocks
  simp only [Traced.all_bind, Traced.all_pure, Traced.all_ite, and_true, implies_true]
  refine ⟨touch_safe (by omega), fun hqc => touch_safe ?_, touch_safe (by omega), touch_safe (by omega),
    touch_safe (by omega), touch_safe (by omega), fun ha4 => touch_safe (hwds (ha4.trans (by decide)))⟩
  -- the QoS control would be the first byte behind the header
  have hdata : getHdrlen (frameCtl skb.data) =
      if dsBits (frameCtl skb.data) = fctlTods ||| fctlFromds then 30 else 24 := by
    rw [getHdrlen, if_pos hqc.1]
    exact if_congr (dsBits_both_iff _).symm rfl rfl
  omega

/-- CCMP subtracts before it checks, but touches no short frame. -/
theorem readCcmpDecrypt_safe_iff (hhdr : dataHdr3Len ≤ skb.len)
    (hwds : dsBits (frameCtl skb.data) = fctlFromds ||| fctlTods → dataHdr4Len ≤ skb.len)
    (heq : hdrLen = getHdrlen (frameCtl skb.data)) (key : CcmpData) :
    (readCcmpDecrypt prim skb hdrLen key).All Access.Safe ↔ hdrLen + 16 ≤ skb.len := by
  have hta : (touch skb 10 6).All Access.Safe := touch_safe (Nat.le_trans (by decide) hhdr)
  unfold readCcmpDecrypt
  rw [Traced.all_bind, Traced.all_bind, Traced.all_bind, Traced.all_sub, Traced.all_sub, Traced.all_sub]
  constructor
  · rintro ⟨h1, h2, h3, -⟩
    have hhdrLen : hdrLen ≤ skb.len := h1
    have hiv : 8 ≤ skb.len - hdrLen := h2
    have hmic : 8 ≤ skb.len - hdrLen - 8 := h3
    omega
  · intro hlen
    have hroom : ¬ skb.len < hdrLen + ccmpHdrLen + ccmpMicLen := by
      unfold ccmpHdrLen ccmpMicLen
      omega
    have hmic : (touch skb (skb.len - ccmpMicLen) ccmpMicLen).All Access.Safe := by
      unfold ccmpMicLen
      exact touch_safe (by omega)
    refine ⟨?_, ?_, ?_, ?_⟩
    · show hdrLen ≤ skb.len
      omega
    · show 8 ≤ skb.len - hdrLen
      omega
    · show 8 ≤ skb.len - hdrLen - 8
      omega
    dsimp only
    rw [if_neg hroom]
    simp only [Traced.all_bind, Traced.all_pure, Traced.all_ite, and_true, implies_true, true_and, hta, hmic]
    refine ⟨touch_safe (by omega), fun _ _ _ => ?_⟩
    refine ⟨touch_safe (by omega), touchInitBlocks_safe hhdr hwds (by omega), ?_, fun _ => ?_⟩
    · apply touchBlocks_safe _ _ _ _ rfl fun _ => rfl
      unfold ccmpHdrLen ccmpMicLen
      omega
    · apply touchStrip_safe
      unfold ccmpHdrLen ccmpMicLen
      omega

end

/-! ### Michael -/

/-- The end of the header fields that `michael_mic_hdr` takes. -/
def micHdrEnd (fc : UInt16) : ℕ :=
  if dsBits fc = fctlTods ∨ dsBits fc = fctlFromds then 22
  else if dsBits fc = fctlFromds ||| fctlTods then 30
  else 16

section

variable {prim : Primitives} {skb : SkBuff} {hdrLen : ℕ}

theorem touch_safe_iff {i n : ℕ} (hn : 0 < n) : (touch skb i n).All Access.Safe ↔ i + n ≤ skb.len :=
  readFrame_safe_iff skb hn ()

theorem touchMichaelMicHdr_safe_iff :
    (touchMichaelMicHdr skb).All Access.Safe ↔ micHdrEnd (frameCtl skb.data) ≤ skb.len := by
  have hfield : ∀ i : ℕ, (touch skb i 6).All Access.Safe ↔ i + 6 ≤ skb.len :=
    fun i => touch_safe_iff (by decide)
  have hfc : (touch skb 0 2).All Access.Safe ↔ 0 + 2 ≤ skb.len := touch_safe_iff Nat.two_pos
  unfold touchMichaelMicHdr micHdrEnd
  rw [Traced.all_bind, hfc]
  dsimp only
  by_cases hto : dsBits (frameCtl skb.data) = fctlTods
  · rw [if_pos hto, if_pos (Or.inl hto), Traced.all_bind, hfield, hfield]
    omega
  rw [if_neg hto]
  by_cases hfrom : dsBits (frameCtl skb.data) = fctlFromds
  · rw [if_pos hfrom, if_pos (Or.inr hfrom), Traced.all_bind, hfield, hfield]
    omega
  rw [if_neg hfrom, if_neg (not_or.mpr ⟨hto, hfrom⟩)]
  by_cases hboth : dsBits (frameCtl skb.data) = fctlFromds ||| fctlTods
  · rw [if_pos hboth, if_pos hboth, Traced.all_bind, hfield, hfield]
    omega
  · rw [if_neg hboth, if_neg hboth, Traced.all_bind, hfield, hfield]
    omega

/-- Nothing wraps in the length Michael digests, where a MIC follows the header. -/
theorem micDataLen_le {len : ℕ} (h : hdrLen + michaelMicLen ≤ len) :
    micDataLen len hdrLen ≤ len - michaelMicLen - hdrLen := by
  have hsub : len + 2 ^ 32 - michaelMicLen - hdrLen = len - michaelMicLen - hdrLen + 2 ^ 32 := by omega
  calc micDataLen len hdrLen = (len - michaelMicLen - hdrLen + 2 ^ 32) % 2 ^ 32 := by
        rw [micDataLen, hsub]
    _ = (len - michaelMicLen - hdrLen) % 2 ^ 32 := Nat.add_mod_right _ _
    _ ≤ len - michaelMicLen - hdrLen := Nat.mod_le _ _

/-- Michael looks at no length: with a key, header and MIC have to be there. -/
theorem readMichaelMicVerify_safe_iff (keyidx : Int) (tkey : TkipData) :
    (readMichaelMicVerify prim skb hdrLen keyidx tkey).All Access.Safe ↔
      (tkey.keySet = true → hdrLen + 8 ≤ skb.len ∧ micHdrEnd (frameCtl skb.data) ≤ skb.len) := by
  unfold readMichaelMicVerify
  cases hset : tkey.keySet with
  | false => exact iff_of_true (Traced.pure_all _) fun h => absurd h Bool.false_ne_true
  | true =>
    rw [imp_iff_right rfl, if_neg (by simp), Traced.all_bind, touchMichaelMicHdr_safe_iff, and_comm]
    refine and_congr_left fun hhdr => ?_
    have hmin : 16 ≤ skb.len := by
      refine le_trans ?_ hhdr
      unfold micHdrEnd
      split_ifs <;> decide
    simp only [Traced.all_bind, Traced.all_sub, Traced.all_pure, Traced.all_ite, and_true]
    unfold michaelMicLen
    constructor
    · rintro ⟨h1, h2, -⟩
      have hmic : 8 ≤ skb.len := h1
      have hhdrLen : hdrLen ≤ skb.len - 8 := h2
      omega
    · intro hlen
      have hdata := micDataLen_le hlen
      unfold michaelMicLen at hdata
      have hsub : Access.Safe (.sub skb.len 8) ∧ Access.Safe (.sub (skb.len - 8) hdrLen) := by
        unfold Access.Safe
        omega
      exact ⟨hsub.1, hsub.2, touch_safe (by omega), touch_safe (by omega), fun _ => touch_safe (by omega),
        fun _ => hsub.1⟩

end

/-! ### The four calls -/

/-- A call of `ieee80211_rx` into a cipher module. -/
inductive DecryptCall where
  | wep (ctx : WepData)
  | tkip (tkey : TkipData)
  | ccmp (key : CcmpData)
  | verify (keyidx : Int) (tkey : TkipData)

namespace DecryptCall

/-- What the call returns, and the frame it leaves. -/
def run (prim : Primitives) (skb : SkBuff) (hdrLen : ℕ) : DecryptCall → Int × SkBuff
  | wep ctx => ((prism2WepDecrypt prim skb hdrLen ctx).ret, (prism2WepDecrypt prim skb hdrLen ctx).skb)
  | tkip tkey =>
    ((tkipDecrypt prim skb hdrLen tkey).ret, (tkipDecrypt prim skb hdrLen tkey).skb)
  | ccmp key =>
    ((ccmpDecrypt prim skb hdrLen key).ret, (ccmpDecrypt prim skb hdrLen key).skb)
  | verify keyidx tkey => ((michaelMicVerify prim skb keyidx hdrLen tkey).ret,
      (michaelMicVerify prim skb keyidx hdrLen tkey).skb)

/-- The same with the accesses. -/
def trace (prim : Primitives) (skb : SkBuff) (hdrLen : ℕ) : DecryptCall → Traced (Int × SkBuff)
  | wep ctx => (fun res => (res.ret, res.skb)) <$> readPrism2WepDecrypt prim skb hdrLen ctx
  | tkip tkey => (fun res => (res.ret, res.skb)) <$> readTkipDecrypt prim skb hdrLen tkey
  | ccmp key => (fun res => (res.ret, res.skb)) <$> readCcmpDecrypt prim skb hdrLen key
  | verify keyidx tkey =>
    (fun res => (res.ret, res.skb)) <$> readMichaelMicVerify prim skb hdrLen keyidx tkey

/-- The bytes behind the header that the routine takes off. -/
def overhead : DecryptCall → ℕ
  | wep _ => 8
  | tkip _ => 12
  | ccmp _ => 16
  | verify _ _ => 8

/-- The call opens a frame, and does not check an MSDU. -/
def OpensMpdu : DecryptCall → Prop
  | verify _ _ => False
  | _ => True

/-- The frame is one that `ieee80211_rx` passes on: with the length of the header
its frame control says, and admitted if it is to be opened. What the MIC is
checked of was opened or put together before. -/
def PassedOn (c : DecryptCall) (skb : SkBuff) (hdrLen : ℕ) : Prop :=
  hdrLen = getHdrlen (frameCtl skb.data) ∧
    (c.OpensMpdu → ∃ (env : RxEnv) (d d' : Device Priv), rxAdmit env d skb = .data d')

/-- No length wraps and no byte outside the frame is touched, and a frame that is
too short is refused as it was. -/
def Sound (c : DecryptCall) (prim : Primitives) (skb : SkBuff) (hdrLen : ℕ) : Prop :=
  (c.trace prim skb hdrLen).All Access.Safe ∧
    (skb.len < hdrLen + c.overhead →
      (c.run prim skb hdrLen).1 < 0 ∧ (c.run prim skb hdrLen).2 = skb)

/-- The lengths at which the call is sound. -/
def LongEnough (c : DecryptCall) (skb : SkBuff) (hdrLen : ℕ) : Prop :=
  match c with
  | wep _ => True
  | tkip _ => True
  | ccmp _ => hdrLen + 16 ≤ skb.len
  | verify _ tkey =>
    tkey.keySet = true → hdrLen + 8 ≤ skb.len ∧ micHdrEnd (frameCtl skb.data) ≤ skb.len

section

variable {prim : Primitives} {skb : SkBuff} {hdrLen : ℕ}

theorem trace_value (c : DecryptCall) : (c.trace prim skb hdrLen).value = c.run prim skb hdrLen := by
  cases c with
  | wep ctx => rw [trace, Traced.value_map, readPrism2WepDecrypt_value, run]
  | tkip tkey => rw [trace, Traced.value_map, readTkipDecrypt_value, run]
  | ccmp key => rw [trace, Traced.value_map, readCcmpDecrypt_value, run]
  | verify keyidx tkey => rw [trace, Traced.value_map, readMichaelMicVerify_value, run]

/-- An opened frame that is too short is refused before it is touched. -/
theorem run_short {c : DecryptCall} (hc : c.OpensMpdu) (hshort : skb.len < hdrLen + c.overhead) :
    (c.run prim skb hdrLen).1 < 0 ∧ (c.run prim skb hdrLen).2 = skb := by
  cases c with
  | wep ctx =>
    replace hshort : skb.len < hdrLen + 8 := hshort
    rw [run, prism2WepDecrypt, if_pos hshort]
    exact ⟨by simp, rfl⟩
  | tkip tkey =>
    replace hshort : skb.len < hdrLen + 8 + 4 := hshort
    rw [run, tkipDecrypt, if_pos hshort]
    exact ⟨by simp, rfl⟩
  | ccmp key =>
    replace hshort : skb.len < hdrLen + ccmpHdrLen + ccmpMicLen := hshort
    rw [run, ccmpDecrypt, if_pos hshort]
    exact ⟨by simp, rfl⟩
  | verify keyidx tkey => exact hc.elim

end

/-- **The lengths of the decryption.** A call is sound exactly on the frames that
are long enough for it: any frame for WEP and TKIP, one that CCMP does not
refuse, and, with a key, one that has a MIC behind its header. -/
theorem sound_iff (prim : Primitives) (c : DecryptCall) {skb : SkBuff} {hdrLen : ℕ}
    (h : c.PassedOn skb hdrLen) : c.Sound prim skb hdrLen ↔ c.LongEnough skb hdrLen := by
  obtain ⟨heq, hadmit⟩ := h
  unfold Sound
  cases c with
  | wep ctx =>
    rw [trace, Traced.all_map]
    exact iff_of_true ⟨readPrism2WepDecrypt_safe ctx, run_short trivial⟩ trivial
  | tkip tkey =>
    obtain ⟨env, d, d', hdata⟩ := hadmit trivial
    obtain ⟨-, hhdr, -⟩ := rxAdmit_data hdata
    rw [trace, Traced.all_map]
    exact iff_of_true ⟨readTkipDecrypt_safe hhdr tkey, run_short trivial⟩ trivial
  | ccmp key =>
    obtain ⟨env, d, d', hdata⟩ := hadmit trivial
    obtain ⟨-, hhdr, hwds, -⟩ := rxAdmit_data hdata
    rw [trace, Traced.all_map, readCcmpDecrypt_safe_iff hhdr hwds heq]
    exact and_iff_left (run_short trivial)
  | verify keyidx tkey =>
    rw [trace, Traced.all_map, readMichaelMicVerify_safe_iff]
    refine and_iff_left_of_imp fun hlong hshort => ?_
    cases hset : tkey.keySet with
    | false =>
      rw [run, michaelMicVerify, if_pos (by simp [hset])]
      exact ⟨by simp, rfl⟩
    | true => exact absurd hshort (not_lt.mpr (hlong hset).1)

end DecryptCall

/-- The two stages of TKIP on a whole frame: what was opened has its MIC exactly
where twenty bytes followed the header. -/
theorem verify_after_decrypt {prim : Primitives} {skb : SkBuff} {hdrLen : ℕ} {tkey : TkipData}
    (keyidx : Int) (hhdr : 2 ≤ hdrLen) (h : 0 ≤ (tkipDecrypt prim skb hdrLen tkey).ret) :
    (DecryptCall.verify keyidx (tkipDecrypt prim skb hdrLen tkey).priv).LongEnough
        (tkipDecrypt prim skb hdrLen tkey).skb hdrLen ↔
      (tkey.keySet = true → hdrLen + 20 ≤ skb.len ∧ micHdrEnd (frameCtl skb.data) + 12 ≤ skb.len) := by
  obtain ⟨hlong, hlen, hkept⟩ := tkipDecrypt_hdr h
  have hset : (tkipDecrypt prim skb hdrLen tkey).priv.keySet = tkey.keySet := by
    rcases tkipDecrypt_priv prim skb hdrLen tkey with ⟨-, hpriv⟩ | ⟨hneg, -⟩
    · rw [hpriv]
    · exact absurd hneg (not_lt.mpr h)
  have hfc : frameCtl (tkipDecrypt prim skb hdrLen tkey).skb.data = frameCtl skb.data := by
    rw [← frameCtl_take (by omega : 1 < hdrLen), hkept, frameCtl_take (by omega)]
  unfold DecryptCall.LongEnough
  dsimp only
  rw [hset, hlen, hfc]
  refine imp_congr_right fun _ => and_congr ?_ ?_
  · omega
  · omega

/-- A sender that seals less than a MIC is opened, and comes to the check of the
MIC too short. -/
theorem tkip_short_payload {prim : Primitives} {skb : SkBuff} {tkey : TkipData}
    {tk hdr payload : List UInt8} {ttak : Ttak} {iv32 : UInt32} {iv16 : UInt16} (keyidx : Int)
    (hset : tkey.keySet = true) (hshort : payload.length < 8)
    (hd : skb.data = tkipFrame prim tk tkey.keyIdx ttak iv32 iv16 hdr payload)
    (hmix : tkipMixingPhase2 tkey.key (tkey.rxPhase1 (addr2 skb.data) iv32) iv16 =
      tkipMixingPhase2 tk ttak iv16) :
    0 ≤ (tkipDecrypt prim skb hdr.length tkey).ret ∧
      ¬ (DecryptCall.verify keyidx (tkipDecrypt prim skb hdr.length tkey).priv).LongEnough
        (tkipDecrypt prim skb hdr.length tkey).skb hdr.length := by
  obtain ⟨hret, hpriv, hdata⟩ := tkipDecrypt_encrypted hset hd hmix
  have hok : 0 ≤ (tkipDecrypt prim skb hdr.length tkey).ret := by
    rw [hret]
    exact Int.natCast_nonneg _
  refine ⟨hok, fun hlong => ?_⟩
  have hmic := (hlong (by rw [hpriv, hset])).1
  rw [SkBuff.len, hdata, List.length_append] at hmic
  omega

/-- A data frame of the access point with four bytes of payload. -/
def shortMsdu : SkBuff := apFrame 0 0 ⟨0, 0, 0, 0, 0, 0⟩ ⟨2, 0, 0, 0, 0, 1⟩ [1, 2, 3, 4]

/-- A station on the network of zeros admits it. -/
theorem rxAdmit_shortMsdu : ∃ (env : RxEnv) (d d' : Device Priv), rxAdmit env d shortMsdu = .data d' :=
  ⟨⟨⟨1000, true, fun _ => false, ⟨0, 0, 0, 0, 0, 0⟩⟩, 1001, true⟩,
    Device.init Priv ⟨250, true⟩ ⟨2, 0, 0, 0, 0, 1⟩, _, rfl⟩

/-- It is too short for TKIP, which refuses it. -/
theorem sound_iff_shortMsdu : (DecryptCall.tkip (tkipInit 0)).Sound linuxPrimitives shortMsdu 24 ↔
    (DecryptCall.tkip (tkipInit 0)).LongEnough shortMsdu 24 :=
  DecryptCall.sound_iff linuxPrimitives _ ⟨by decide, fun _ => rxAdmit_shortMsdu⟩

/-- The MIC is looked for in it all the same. -/
theorem shortMsdu_not_sound : ¬ ∀ (prim : Primitives) (c : DecryptCall) (skb : SkBuff) (hdrLen : ℕ),
    c.PassedOn skb hdrLen → c.Sound prim skb hdrLen := by
  intro h
  have hsafe := (h linuxPrimitives (.verify 0 { tkipInit 0 with keySet := true }) shortMsdu 24
    ⟨by decide, False.elim⟩).1
  rw [DecryptCall.trace, Traced.all_map, readMichaelMicVerify_safe_iff] at hsafe
  exact absurd (hsafe rfl).1 (by decide)

end Rtl8187
