/-
# TKIP and Michael, there and back

A sender appends the MIC to an MSDU and encrypts it; a receiver decrypts it
and checks the MIC. Both keep a first phase of the key mixing. The sender's is
that of its counter; the receiver's is that of `rx_iv32`, while every frame it
took came from the sender and had its MIC checked. So with one temporal key,
and the sender's MIC key for sending that of the receiver for receiving, the
receiver gets back the header and the payload, whatever the counters.

Key definitions: `RxKept`, `tkipReceive`, `Complete`.
Key theorems: `tkip_michael_round_trip`.
-/
import Rtl8187.TkipNumbers
import Rtl8187.TkipCache

namespace Rtl8187

open Bytes

/-! ### What the mixing and the MIC read -/

section

variable (tk : List UInt8)

/-- The first phase reads the temporal key only. -/
theorem tkipMixingPhase1_take (ta : Mac) (iv32 : UInt32) :
    tkipMixingPhase1 (tk.take 16) ta iv32 = tkipMixingPhase1 tk ta iv32 := by
  have hstep : ∀ t i, phase1Step (tk.take 16) t i = phase1Step tk t i := by
    intro t i
    have hj : 2 * (i % 2) ≤ 2 := by omega
    simp only [phase1Step, get16_take (show 0 + 2 * (i % 2) + 1 < 16 by omega),
      get16_take (show 4 + 2 * (i % 2) + 1 < 16 by omega),
      get16_take (show 8 + 2 * (i % 2) + 1 < 16 by omega),
      get16_take (show 12 + 2 * (i % 2) + 1 < 16 by omega)]
  have hfun : phase1Step (tk.take 16) = phase1Step tk := by
    funext t i
    exact hstep t i
  rw [tkipMixingPhase1, hfun, tkipMixingPhase1]

/-- So does the second. -/
theorem tkipMixingPhase2_take (ttak : Ttak) (iv16 : UInt16) :
    tkipMixingPhase2 (tk.take 16) ttak iv16 = tkipMixingPhase2 tk ttak iv16 := by
  simp only [tkipMixingPhase2, get16_take (show 0 + 1 < 16 by decide),
    get16_take (show 2 + 1 < 16 by decide), get16_take (show 4 + 1 < 16 by decide),
    get16_take (show 6 + 1 < 16 by decide), get16_take (show 8 + 1 < 16 by decide),
    get16_take (show 10 + 1 < 16 by decide), get16_take (show 12 + 1 < 16 by decide),
    get16_take (show 14 + 1 < 16 by decide)]

end

/-- A data header has three addresses at least. -/
theorem le_getHdrlen {fc : UInt16} (htype : fcType fc = ftypeData) : dataHdr3Len ≤ getHdrlen fc := by
  unfold getHdrlen
  rw [if_pos htype]
  split_ifs <;> decide

section

variable {hdr : List UInt8} (body : List UInt8)

/-- The addresses of the MIC are in the header. -/
theorem michaelMicHdr_append (htype : fcType (frameCtl hdr) = ftypeData)
    (hhdr : getHdrlen (frameCtl hdr) ≤ hdr.length) : michaelMicHdr (hdr ++ body) = michaelMicHdr hdr := by
  have h24 : 24 ≤ hdr.length := (le_getHdrlen htype).trans hhdr
  have hhead : (hdr ++ body).take hdr.length = hdr := List.take_left
  have hfc : frameCtl (hdr ++ body) = frameCtl hdr := by
    rw [← frameCtl_take (by omega : 1 < hdr.length), hhead]
  have h1 : addr1 (hdr ++ body) = addr1 hdr := by
    rw [← addr1_take (by omega : 9 < hdr.length), hhead]
  have h2 : addr2 (hdr ++ body) = addr2 hdr := by
    rw [← addr2_take (by omega : 15 < hdr.length), hhead]
  have h3 : addr3 (hdr ++ body) = addr3 hdr := by
    rw [← addr3_take (by omega : 21 < hdr.length), hhead]
  unfold michaelMicHdr
  rw [hfc, h1, h2, h3]
  by_cases hds : dsBits (frameCtl hdr) = fctlFromds ||| fctlTods
  · -- a fourth address
    have hboth := (dsBits_both_iff (frameCtl hdr)).mp hds
    have h30 : 30 ≤ hdr.length := by
      unfold getHdrlen at hhdr
      rwa [if_pos htype, if_pos hboth] at hhdr
    have h4 : addr4 (hdr ++ body) = addr4 hdr := by
      rw [← addr4_take (by omega : 29 < hdr.length), hhead]
    rw [h4]
  · simp only [if_neg hds]

end

/-! ### The receiver's first phase -/

/-- A first phase that is kept is that of the transmitter and of `rx_iv32`. -/
def RxKept (ta : Mac) (tkey : TkipData) : Prop :=
  tkey.rxPhase1Done = true → tkey.rxTtak = tkipMixingPhase1 tkey.key ta tkey.rxIv32

/-- So the first phase of a frame is that, kept or computed. -/
theorem RxKept.rxPhase1 {ta : Mac} {tkey : TkipData} (h : RxKept ta tkey) (iv32 : UInt32) :
    tkey.rxPhase1 ta iv32 = tkipMixingPhase1 tkey.key ta iv32 := by
  unfold TkipData.rxPhase1
  split_ifs with hmix
  · rfl
  · obtain ⟨hiv, hdone⟩ := not_or.mp hmix
    rw [h (by simpa using hdone), not_not.mp hiv]

section

variable (prim : Primitives)

/-- A frame received whole: decrypted, and where that succeeds its MIC checked. -/
def tkipReceive (tkey : TkipData) (f : Mpdu) : CryptRes TkipData :=
  let r := tkipDecrypt prim f.skb f.hdrLen tkey
  if 0 ≤ r.ret then michaelMicVerify prim r.skb r.ret f.hdrLen r.priv else r

/-- The context after a frame received whole. -/
def tkipTake (tkey : TkipData) (f : Mpdu) : TkipData := (tkipReceive prim tkey f).priv

/-- A frame of the transmitter, which is not decrypted or has a good MIC. -/
def Complete (ta : Mac) (tkey : TkipData) (f : Mpdu) : Prop :=
  addr2 f.skb.data = ta ∧
    (0 ≤ (tkipDecrypt prim f.skb f.hdrLen tkey).ret → 0 ≤ (tkipReceive prim tkey f).ret)

/-- Such frames keep what is known of the first phase, and the key. -/
theorem RxKept.take {ta : Mac} {tkey : TkipData} (h : RxKept ta tkey) {f : Mpdu}
    (hf : Complete prim ta tkey f) : RxKept ta (tkipTake prim tkey f) ∧
      (tkipTake prim tkey f).key = tkey.key ∧ (tkipTake prim tkey f).keySet = tkey.keySet ∧
      (tkipTake prim tkey f).keyIdx = tkey.keyIdx := by
  obtain ⟨hta, hgood⟩ := hf
  unfold tkipTake
  unfold tkipReceive at hgood ⊢
  dsimp only at hgood ⊢
  by_cases hret : 0 ≤ (tkipDecrypt prim f.skb f.hdrLen tkey).ret
  · -- decrypted, so its MIC is good, and `rx_iv32` moves
    have hmic := hgood hret
    rw [if_pos hret] at hmic ⊢
    obtain ⟨-, hverify, -⟩ | ⟨hneg, -⟩ := michaelMicVerify_priv prim
      (tkipDecrypt prim f.skb f.hdrLen tkey).skb f.hdrLen (tkipDecrypt prim f.skb f.hdrLen tkey).priv
      (tkipDecrypt prim f.skb f.hdrLen tkey).ret
    · obtain ⟨-, hpriv⟩ := (tkipDecrypt_priv prim f.skb f.hdrLen tkey).resolve_right
        fun hneg => absurd hret (not_le.mpr hneg.1)
      rw [hverify, hpriv]
      refine ⟨fun _ => ?_, rfl, rfl, rfl⟩
      show tkey.rxPhase1 (addr2 f.skb.data) _ = _
      rw [hta, h.rxPhase1]
    · omega
  · rw [if_neg hret]
    cases hreach : tkipReaches tkey f with
    | false =>
      have hrx : (tkipDecrypt prim f.skb f.hdrLen tkey).priv = tkey := tkipRx_refused prim hreach
      rw [hrx]
      exact ⟨h, rfl, rfl, rfl⟩
    | true =>
      obtain ⟨-, hpriv⟩ := (tkipRx_reached prim hreach).resolve_right fun hpos => hret hpos.1
      have hrx : (tkipDecrypt prim f.skb f.hdrLen tkey).priv = _ := hpriv
      rw [hrx]
      refine ⟨fun hdone => ?_, rfl, rfl, rfl⟩
      -- a first phase that stays is that of `rx_iv32`
      have hiv : hdrIv32 f.skb.data f.hdrLen = tkey.rxIv32 := by simpa using hdone
      show tkey.rxPhase1 (addr2 f.skb.data) _ = _
      rw [hta, h.rxPhase1, hiv]

/-! ### Sender and receiver -/

variable {prim} in
theorem michaelMicAdd_ok {tkey : TkipData} {skb : SkBuff} {hdr payload : List UInt8}
    (hd : skb.data = hdr ++ payload) (htail : michaelMicLen ≤ skb.tailroom) :
    michaelMicAdd prim skb hdr.length tkey =
      ⟨0, skb.put (prim.michaelMic tkey.txMicKey (michaelMicHdr (hdr ++ payload) ++ payload)), tkey⟩ := by
  have hlen : skb.len = hdr.length + payload.length := by rw [SkBuff.len, hd, List.length_append]
  rw [michaelMicAdd, if_neg (by omega), hd, List.drop_left]

variable {prim} in
/-- A MIC that was added is good, under the same key and header. -/
theorem michaelMicVerify_ok {tkey : TkipData} {skb : SkBuff} {hdr payload : List UInt8}
    (hset : tkey.keySet = true) (hlen : payload.length < 2 ^ 32)
    (hd : skb.data = hdr ++ (payload ++
      prim.michaelMic tkey.rxMicKey (michaelMicHdr skb.data ++ payload))) (keyidx : Int) :
    (michaelMicVerify prim skb keyidx hdr.length tkey).ret = 0 ∧
      (michaelMicVerify prim skb keyidx hdr.length tkey).skb.data = hdr ++ payload := by
  set mic := prim.michaelMic tkey.rxMicKey (michaelMicHdr skb.data ++ payload) with hmic
  have h8 : mic.length = 8 := prim.length_michaelMic _ _
  have hbytes : michaelMicLen = 8 := rfl
  have hskb : skb.len = hdr.length + (payload.length + 8) := by
    rw [SkBuff.len, hd, List.length_append, List.length_append, h8]
  have hdl : micDataLen skb.len hdr.length = payload.length := by
    unfold micDataLen
    omega
  have hfront : (hdr ++ payload).length = skb.len - michaelMicLen := by
    rw [List.length_append]
    omega
  have hslice : slice hdr.length payload.length (skb.data ++ skb.behind) = payload := by
    rw [hd, slice, List.append_assoc, List.drop_left, List.append_assoc, List.take_left]
  have htail : skb.data.drop (skb.len - michaelMicLen) = mic := by
    rw [← hfront, hd, ← List.append_assoc, List.drop_left]
  unfold michaelMicVerify
  dsimp only
  rw [hset, hdl, hslice, htail, ← hmic, if_neg (by simp), if_neg (by simp)]
  refine ⟨rfl, ?_⟩
  rw [SkBuff.trim_data, ← hfront, hd, ← List.append_assoc, List.take_left]

variable {tx rx : TkipData} {skb : SkBuff} {hdr payload : List UInt8}

/-- Between contexts that keep their first phases, a frame goes through. -/
theorem tkipMichael_round_trip (htk : rx.tk = tx.tk) (hmic : rx.rxMicKey = tx.txMicKey)
    (hidx : rx.keyIdx = tx.keyIdx) (hset : rx.keySet = true) (htx : TxKept (addr2 hdr) tx)
    (hrx : RxKept (addr2 hdr) rx) (hd : skb.data = hdr ++ payload)
    (htype : fcType (frameCtl hdr) = ftypeData) (hhdr : getHdrlen (frameCtl hdr) ≤ hdr.length)
    (hlen : payload.length < 2 ^ 32) (hhead : 8 ≤ skb.headroom) (htail : 8 + 4 ≤ skb.tailroom) :
    let added := michaelMicAdd prim skb hdr.length tx
    let sent := tkipEncrypt prim added.skb hdr.length added.priv
    let opened := tkipDecrypt prim sent.skb hdr.length rx
    let got := michaelMicVerify prim opened.skb opened.ret hdr.length opened.priv
    added.ret = 0 ∧ sent.ret = 0 ∧ opened.ret = rx.keyIdx.val ∧ got.ret = 0 ∧
      got.skb.data = hdr ++ payload := by
  have h24 : 24 ≤ hdr.length := (le_getHdrlen htype).trans hhdr
  have haddr : ∀ body, addr2 (hdr ++ body) = addr2 hdr := by
    intro body
    rw [← addr2_take (by omega : 15 < hdr.length), List.take_left]
  set mic := prim.michaelMic tx.txMicKey (michaelMicHdr (hdr ++ payload) ++ payload) with hmicdef
  have h8 : mic.length = 8 := prim.length_michaelMic _ _
  have hadd : michaelMicAdd prim skb hdr.length tx = ⟨0, skb.put mic, tx⟩ :=
    michaelMicAdd_ok hd (by unfold michaelMicLen; omega)
  have hput : (skb.put mic).data = hdr ++ (payload ++ mic) := by
    rw [SkBuff.put_data, hd, List.append_assoc]
  have hroom : 4 ≤ (skb.put mic).tailroom := by
    unfold SkBuff.tailroom at htail ⊢
    rw [SkBuff.put_behind, List.length_drop]
    omega
  obtain ⟨hsent, -, hout⟩ := @tkipEncrypt_ok prim (skb.put mic) tx _ _ hput hhead hroom
  have hphase : tx.txPhase1 (addr2 (skb.put mic).data) =
      tkipMixingPhase1 tx.key (addr2 hdr) tx.txIv32 := by
    rw [hput, haddr, htx.txPhase1]
  rw [hphase, ← hidx] at hout
  intro added sent opened got
  have hadded : added = ⟨0, skb.put mic, tx⟩ := hadd
  have hsentEq : sent = tkipEncrypt prim (skb.put mic) hdr.length tx := by
    show tkipEncrypt prim added.skb hdr.length added.priv = _
    rw [hadded]
  rw [← hsentEq] at hsent hout
  have hta : addr2 sent.skb.data = addr2 hdr := by
    rw [hout, tkipFrame, List.append_assoc, haddr]
  have hmix : tkipMixingPhase2 rx.key (rx.rxPhase1 (addr2 sent.skb.data) tx.txIv32) tx.txIv16 =
      tkipMixingPhase2 tx.key (tkipMixingPhase1 tx.key (addr2 hdr) tx.txIv32) tx.txIv16 := by
    rw [hta, hrx.rxPhase1, ← tkipMixingPhase2_take, ← tkipMixingPhase1_take rx.key,
      ← tkipMixingPhase2_take tx.key, ← tkipMixingPhase1_take tx.key]
    show tkipMixingPhase2 rx.tk (tkipMixingPhase1 rx.tk _ _) _ = _
    rw [htk]
    rfl
  obtain ⟨hopened, hpriv, hback⟩ := tkipDecrypt_encrypted hset hout hmix
  have hkeys : opened.priv.keySet = true ∧ opened.priv.rxMicKey = tx.txMicKey := by
    show (tkipDecrypt prim sent.skb hdr.length rx).priv.keySet = true ∧ _
    rw [hpriv]
    exact ⟨hset, hmic⟩
  have hverify : opened.skb.data = hdr ++ (payload ++ prim.michaelMic opened.priv.rxMicKey
      (michaelMicHdr opened.skb.data ++ payload)) := by
    have hback' : opened.skb.data = hdr ++ (payload ++ mic) := hback
    rw [hkeys.2, hback', michaelMicHdr_append _ htype hhdr, hmicdef, michaelMicHdr_append _ htype hhdr]
  obtain ⟨hgot, hdata⟩ := michaelMicVerify_ok hkeys.1 hlen hverify opened.ret
  exact ⟨by rw [hadded], hsent, hopened, hgot, hdata⟩

/-- **TKIP and Michael, there and back.** The sender has encrypted any frames
of one transmitter since its `set_key`, the receiver has taken any of them, or
others of that transmitter, whole. `skb->len` is a 32-bit word. -/
theorem tkip_michael_round_trip (txKey rxKey : List UInt8) (htxKey : txKey.length = tkipKeyLen)
    (hrxKey : rxKey.length = tkipKeyLen) (htk : rxKey.take 16 = txKey.take 16)
    (hmic : slice 24 8 rxKey = slice 16 8 txKey) (txSeq rxSeq : Option (List UInt8))
    (t r : TkipData) (hidx : r.keyIdx = t.keyIdx) (before taken : List Mpdu)
    (hbefore : ∀ f ∈ before, addr2 f.skb.data = addr2 hdr)
    (htaken : Run.AllSteps (tkipTake prim) (Complete prim (addr2 hdr)) (tkipSetKey rxKey rxSeq r).2 taken)
    (hd : skb.data = hdr ++ payload) (htype : fcType (frameCtl hdr) = ftypeData)
    (hhdr : getHdrlen (frameCtl hdr) ≤ hdr.length) (hlen : payload.length < 2 ^ 32)
    (hhead : 8 ≤ skb.headroom) (htail : 8 + 4 ≤ skb.tailroom) :
    let tx := Run.run (tkipTx prim) (tkipSetKey txKey txSeq t).2 before
    let rx := Run.run (tkipTake prim) (tkipSetKey rxKey rxSeq r).2 taken
    let added := michaelMicAdd prim skb hdr.length tx
    let sent := tkipEncrypt prim added.skb hdr.length added.priv
    let opened := tkipDecrypt prim sent.skb hdr.length rx
    let got := michaelMicVerify prim opened.skb opened.ret hdr.length opened.priv
    added.ret = 0 ∧ sent.ret = 0 ∧ opened.ret = r.keyIdx.val ∧ got.ret = 0 ∧
      got.skb.data = hdr ++ payload := by
  intro tx rx
  let txInv : TkipData → Prop := fun s => s.key = txKey ∧ s.keyIdx = t.keyIdx ∧ TxKept (addr2 hdr) s
  let rxInv : TkipData → Prop := fun s =>
    s.key = rxKey ∧ s.keySet = true ∧ s.keyIdx = r.keyIdx ∧ RxKept (addr2 hdr) s
  have htxStart : txInv (tkipSetKey txKey txSeq t).2 := by
    unfold tkipSetKey
    dsimp only
    rw [if_pos htxKey]
    exact ⟨rfl, rfl, fun hdone => by cases hdone⟩
  have hrxStart : rxInv (tkipSetKey rxKey rxSeq r).2 := by
    unfold tkipSetKey
    dsimp only
    rw [if_pos hrxKey]
    exact ⟨rfl, rfl, rfl, fun hdone => by cases hdone⟩
  have htx : txInv tx := by
    refine Run.inv_run (fun s f hs hf => ?_) _ before htxStart (Run.allSteps_of_forall _ hbefore)
    obtain ⟨hkey, hidx, -⟩ := tkipTx_same prim s f
    exact ⟨hkey.trans hs.1, hidx.trans hs.2.1, hs.2.2.tkipTx prim hf⟩
  have hrx : rxInv rx := by
    refine Run.inv_run (fun s f hs hf => ?_) _ taken hrxStart htaken
    obtain ⟨hkept, hkey, hset, hidx⟩ := hs.2.2.2.take prim hf
    exact ⟨hkey.trans hs.1, hset.trans hs.2.1, hidx.trans hs.2.2.1, hkept⟩
  have htk' : rx.tk = tx.tk := by rw [TkipData.tk, TkipData.tk, hrx.1, htx.1, htk]
  have hmic' : rx.rxMicKey = tx.txMicKey := by
    rw [TkipData.rxMicKey, TkipData.txMicKey, hrx.1, htx.1, hmic]
  have hidx' : rx.keyIdx = tx.keyIdx := by rw [hrx.2.2.1, htx.2.1, hidx]
  rw [← hrx.2.2.1]
  exact tkipMichael_round_trip prim htk' hmic' hidx' hrx.2.1 htx.2.2 hrx.2.2.2 hd htype hhdr hlen hhead
    htail

end

/-- A header from a distribution system to another. -/
def wdsHdr : List UInt8 := [0x08, 0x03] ++ List.replicate 28 3

/-- A frame behind it, after one that was lost. -/
theorem tkip_michael_round_trip_wds :
    let tx := Run.run (tkipTx linuxPrimitives)
      (tkipSetKey (List.replicate tkipKeyLen 7) none (tkipInit 1)).2
      [⟨⟨8, List.replicate 40 3, List.replicate 12 0⟩, 24⟩]
    let rx := Run.run (tkipTake linuxPrimitives)
      (tkipSetKey (List.replicate tkipKeyLen 7) none (tkipInit 1)).2 []
    let added := michaelMicAdd linuxPrimitives ⟨8, wdsHdr ++ [1, 2, 3], List.replicate 12 0⟩
      wdsHdr.length tx
    let sent := tkipEncrypt linuxPrimitives added.skb wdsHdr.length added.priv
    let opened := tkipDecrypt linuxPrimitives sent.skb wdsHdr.length rx
    let got := michaelMicVerify linuxPrimitives opened.skb opened.ret wdsHdr.length opened.priv
    added.ret = 0 ∧ sent.ret = 0 ∧ opened.ret = (tkipInit 1).keyIdx.val ∧ got.ret = 0 ∧
      got.skb.data = wdsHdr ++ [1, 2, 3] :=
  @tkip_michael_round_trip linuxPrimitives ⟨8, wdsHdr ++ [1, 2, 3], List.replicate 12 0⟩ wdsHdr [1, 2, 3]
    (List.replicate tkipKeyLen 7) (List.replicate tkipKeyLen 7) rfl rfl rfl rfl none none (tkipInit 1)
    (tkipInit 1) rfl [⟨⟨8, List.replicate 40 3, List.replicate 12 0⟩, 24⟩] [] (by decide) trivial rfl
    (by decide) (by decide) (by decide) (by decide) (by decide)

end Rtl8187
