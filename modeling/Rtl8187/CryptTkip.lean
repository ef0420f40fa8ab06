/-
# TKIP

`ieee80211_crypt_tkip.c`: the two key mixing phases, the per-packet
encryption, and the Michael MIC over whole MSDUs. The first phase is kept for
as long as the upper half of the counter stays; the receiver's counters move
in two steps, `rx_iv32_new` and `rx_iv16_new` when a frame is decrypted and
`rx_iv32` and `rx_iv16` when the MIC of its MSDU is good. The comparison with
the receiver's counters is compiled out.

Key definitions: `TkipData`, `tkipMixingPhase1`, `tkipMixingPhase2`,
`tkipEncrypt`, `tkipDecrypt`, `michaelMicAdd`, `michaelMicVerify`, `tkipSetKey`.
Key theorems: `tkipDecrypt_encrypted`, `tkipDecrypt_priv`, `tkipDecrypt_hdr`,
`michaelMicVerify_priv`.
-/
import Rtl8187.Crypt
import Rtl8187.Arc4
import Mathlib.Tactic.Set

namespace Rtl8187

open Bytes

/-- `TKIP_KEY_LEN`: the temporal key, then the MIC keys for sending and receiving. -/
def tkipKeyLen : ℕ := 32

/-! ### Key mixing -/

/-- The S-box, one half; the other half is the same with its bytes swapped. -/
def sbox : List UInt16 :=
  [ 0xC6A5, 0xF884, 0xEE99, 0xF68D, 0xFF0D, 0xD6BD, 0xDEB1, 0x9154, 0x6050, 0x0203, 0xCEA9, 0x567D,
    0xE719, 0xB562, 0x4DE6, 0xEC9A, 0x8F45, 0x1F9D, 0x8940, 0xFA87, 0xEF15, 0xB2EB, 0x8EC9, 0xFB0B,
    0x41EC, 0xB367, 0x5FFD, 0x45EA, 0x23BF, 0x53F7, 0xE496, 0x9B5B, 0x75C2, 0xE11C, 0x3DAE, 0x4C6A,
    0x6C5A, 0x7E41, 0xF502, 0x834F, 0x685C, 0x51F4, 0xD134, 0xF908, 0xE293, 0xAB73, 0x6253, 0x2A3F,
    0x080C, 0x9552, 0x4665, 0x9D5E, 0x3028, 0x37A1, 0x0A0F, 0x2FB5, 0x0E09, 0x2436, 0x1B9B, 0xDF3D,
    0xCD26, 0x4E69, 0x7FCD, 0xEA9F, 0x121B, 0x1D9E, 0x5874, 0x342E, 0x362D, 0xDCB2, 0xB4EE, 0x5BFB,
    0xA4F6, 0x764D, 0xB761, 0x7DCE, 0x527B, 0xDD3E, 0x5E71, 0x1397, 0xA6F5, 0xB968, 0x0000, 0xC12C,
    0x4060, 0xE31F, 0x79C8, 0xB6ED, 0xD4BE, 0x8D46, 0x67D9, 0x724B, 0x94DE, 0x98D4, 0xB0E8, 0x854A,
    0xBB6B, 0xC52A, 0x4FE5, 0xED16, 0x86C5, 0x9AD7, 0x6655, 0x1194, 0x8ACF, 0xE910, 0x0406, 0xFE81,
    0xA0F0, 0x7844, 0x25BA, 0x4BE3, 0xA2F3, 0x5DFE, 0x80C0, 0x058A, 0x3FAD, 0x21BC, 0x7048, 0xF104,
    0x63DF, 0x77C1, 0xAF75, 0x4263, 0x2030, 0xE51A, 0xFD0E, 0xBF6D, 0x814C, 0x1814, 0x2635, 0xC32F,
    0xBEE1, 0x35A2, 0x88CC, 0x2E39, 0x9357, 0x55F2, 0xFC82, 0x7A47, 0xC8AC, 0xBAE7, 0x322B, 0xE695,
    0xC0A0, 0x1998, 0x9ED1, 0xA37F, 0x4466, 0x547E, 0x3BAB, 0x0B83, 0x8CCA, 0xC729, 0x6BD3, 0x283C,
    0xA779, 0xBCE2, 0x161D, 0xAD76, 0xDB3B, 0x6456, 0x744E, 0x141E, 0x92DB, 0x0C0A, 0x486C, 0xB8E4,
    0x9F5D, 0xBD6E, 0x43EF, 0xC4A6, 0x39A8, 0x31A4, 0xD337, 0xF28B, 0xD532, 0x8B43, 0x6E59, 0xDAB7,
    0x018C, 0xB164, 0x9CD2, 0x49E0, 0xD8B4, 0xACFA, 0xF307, 0xCF25, 0xCAAF, 0xF48E, 0x47E9, 0x1018,
    0x6FD5, 0xF088, 0x4A6F, 0x5C72, 0x3824, 0x57F1, 0x73C7, 0x9751, 0xCB23, 0xA17C, 0xE89C, 0x3E21,
    0x96DD, 0x61DC, 0x0D86, 0x0F85, 0xE090, 0x7C42, 0x71C4, 0xCCAA, 0x90D8, 0x0605, 0xF701, 0x1C12,
    0xC2A3, 0x6A5F, 0xAEF9, 0x69D0, 0x1791, 0x9958, 0x3A27, 0x27B9, 0xD938, 0xEB13, 0x2BB3, 0x2233,
    0xD2BB, 0xA970, 0x0789, 0x33A7, 0x2DB6, 0x3C22, 0x1592, 0xC920, 0x8749, 0xAAFF, 0x5078, 0xA57A,
    0x038F, 0x59F8, 0x0980, 0x1A17, 0x65DA, 0xD731, 0x84C6, 0xD0B8, 0x82C3, 0x29B0, 0x5A77, 0x1E11,
    0x7BCB, 0xA8FC, 0x6DD6, 0x2C3A ]

/-- `_S_` -/
def sboxWord (v : UInt16) : UInt16 :=
  let t := sbox.getD (hi8 v).toNat 0
  sbox.getD (lo8 v).toNat 0 ^^^ ((t <<< 8) ||| (t >>> 8))

/-- `RotR1` -/
def rotR1 (v : UInt16) : UInt16 := (v >>> 1) ||| (v <<< 15)

/-- The five words of the first phase. -/
structure Ttak where
  t0 : UInt16
  t1 : UInt16
  t2 : UInt16
  t3 : UInt16
  t4 : UInt16
  deriving DecidableEq

/-- One turn of the loop of `tkip_mixing_phase1`. -/
def phase1Step (tk : List UInt8) (t : Ttak) (i : ℕ) : Ttak :=
  let j := 2 * (i % 2)
  let t0 := t.t0 + sboxWord (t.t4 ^^^ get16 tk (0 + j))
  let t1 := t.t1 + sboxWord (t0 ^^^ get16 tk (4 + j))
  let t2 := t.t2 + sboxWord (t1 ^^^ get16 tk (8 + j))
  let t3 := t.t3 + sboxWord (t2 ^^^ get16 tk (12 + j))
  ⟨t0, t1, t2, t3, t.t4 + sboxWord (t3 ^^^ get16 tk (0 + j)) + UInt16.ofNat i⟩

/-- `tkip_mixing_phase1`, with `PHASE1_LOOP_COUNT` turns. -/
def tkipMixingPhase1 (tk : List UInt8) (ta : Mac) (iv32 : UInt32) : Ttak :=
  (List.range 8).foldl (phase1Step tk)
    ⟨iv32.toUInt16, (iv32 >>> 16).toUInt16, mk16 ta.b1 ta.b0, mk16 ta.b3 ta.b2, mk16 ta.b5 ta.b4⟩

/-- `tkip_mixing_phase2`: the ARC4 key of a packet. Its first three bytes go
out with the frame. -/
def tkipMixingPhase2 (tk : List UInt8) (ttak : Ttak) (iv16 : UInt16) : List UInt8 :=
  -- a copy of TTAK with the counter brought in
  let p5 := ttak.t4 + iv16
  -- mixing with the S-box
  let p0 := ttak.t0 + sboxWord (p5 ^^^ get16 tk 0)
  let p1 := ttak.t1 + sboxWord (p0 ^^^ get16 tk 2)
  let p2 := ttak.t2 + sboxWord (p1 ^^^ get16 tk 4)
  let p3 := ttak.t3 + sboxWord (p2 ^^^ get16 tk 6)
  let p4 := ttak.t4 + sboxWord (p3 ^^^ get16 tk 8)
  let p5 := p5 + sboxWord (p4 ^^^ get16 tk 10)
  let p0 := p0 + rotR1 (p5 ^^^ get16 tk 12)
  let p1 := p1 + rotR1 (p0 ^^^ get16 tk 14)
  let p2 := p2 + rotR1 p1
  let p3 := p3 + rotR1 p2
  let p4 := p4 + rotR1 p3
  let p5 := p5 + rotR1 p4
  [hi8 iv16, (hi8 iv16 ||| 0x20) &&& 0x7F, lo8 iv16, lo8 ((p5 ^^^ get16 tk 0) >>> 1)] ++
    le16 p0 ++ le16 p1 ++ le16 p2 ++ le16 p3 ++ le16 p4 ++ le16 p5

-- the first example of the standard for both phases
example : tkipMixingPhase2 (counted 16)
      (tkipMixingPhase1 (counted 16) ⟨0x10, 0x22, 0x33, 0x44, 0x55, 0x66⟩ 0) 0 =
    [0x00, 0x20, 0x00, 0x33, 0xea, 0x8d, 0x2f, 0x60, 0xca, 0x6d, 0x13, 0x74, 0x23, 0x4a, 0x66, 0x0b] := by
  decide +kernel

/-! ### The operations -/

/-- `struct ieee80211_tkip_data`, less its scratch buffers. -/
structure TkipData where
  key : List UInt8
  keySet : Bool
  txIv32 : UInt32
  txIv16 : UInt16
  txTtak : Ttak
  txPhase1Done : Bool
  rxIv32 : UInt32
  rxIv16 : UInt16
  rxTtak : Ttak
  rxPhase1Done : Bool
  rxIv32New : UInt32
  rxIv16New : UInt16
  replays : UInt32
  icvErrors : UInt32
  localMicFailures : UInt32
  keyIdx : KeyIdx

namespace TkipData

/-- The MIC key for sending. -/
def txMicKey (tkey : TkipData) : List UInt8 := slice 16 8 tkey.key

/-- The MIC key for receiving. -/
def rxMicKey (tkey : TkipData) : List UInt8 := slice 24 8 tkey.key

/-- The first phase for sending, kept or computed. -/
def txPhase1 (tkey : TkipData) (ta : Mac) : Ttak :=
  if tkey.txPhase1Done then tkey.txTtak else tkipMixingPhase1 tkey.key ta tkey.txIv32

/-- The first phase for a received frame, kept or computed. -/
def rxPhase1 (tkey : TkipData) (ta : Mac) (iv32 : UInt32) : Ttak :=
  if iv32 ≠ tkey.rxIv32 ∨ !tkey.rxPhase1Done then tkipMixingPhase1 tkey.key ta iv32
  else tkey.rxTtak

end TkipData

/-- The lower half of the counter in the TKIP header at `i`. -/
def hdrIv16 (d : List UInt8) (i : ℕ) : UInt16 := mk16 (at8 d i) (at8 d (i + 2))

/-- The upper half of the counter in the TKIP header at `i`. -/
def hdrIv32 (d : List UInt8) (i : ℕ) : UInt32 :=
  (at8 d (i + 4)).toUInt32 ||| ((at8 d (i + 5)).toUInt32 <<< 8) |||
    ((at8 d (i + 6)).toUInt32 <<< 16) ||| ((at8 d (i + 7)).toUInt32 <<< 24)

/-- `michael_mic_hdr`: destination, source, priority. -/
def michaelMicHdr (d : List UInt8) : List UInt8 :=
  let fc := frameCtl d
  let (da, sa) :=
    if dsBits fc = fctlTods then (addr3 d, addr2 d)
    else if dsBits fc = fctlFromds then (addr1 d, addr3 d)
    else if dsBits fc = fctlFromds ||| fctlTods then (addr3 d, addr4 d)
    else (addr1 d, addr2 d)
  da.toList ++ sa.toList ++ [0, 0, 0, 0]

section

variable (prim : Primitives)

/-- `ieee80211_tkip_encrypt` -/
def tkipEncrypt (skb : SkBuff) (hdrLen : ℕ) (tkey : TkipData) : CryptRes TkipData :=
  if skb.headroom < 8 ∨ skb.tailroom < 4 ∨ skb.len < hdrLen then ⟨-1, skb, tkey⟩
  else
    let ttak := tkey.txPhase1 (addr2 skb.data)
    let rc4key := tkipMixingPhase2 tkey.key ttak tkey.txIv16
    let payload := skb.data.drop hdrLen
    let iv := rc4key.take 3 ++ [keyIdxByte tkey.keyIdx ||| extIv] ++ le32 tkey.txIv32
    let skb := (skb.insertIv hdrLen iv).put (prim.icv payload)
    let skb := { skb with
      data := skb.data.take (hdrLen + 8) ++ arc4Crypt rc4key (skb.data.drop (hdrLen + 8)) }
    let iv16 := tkey.txIv16 + 1
    ⟨0, skb, { tkey with
      txTtak := ttak
      txPhase1Done := iv16 != 0
      txIv16 := iv16
      txIv32 := if iv16 = 0 then tkey.txIv32 + 1 else tkey.txIv32 }⟩

/-- `ieee80211_tkip_decrypt`. A frame with a bad ICV stays decrypted in the buffer. -/
def tkipDecrypt (skb : SkBuff) (hdrLen : ℕ) (tkey : TkipData) : CryptRes TkipData :=
  let keyByte := at8 skb.data (hdrLen + 3)
  if skb.len < hdrLen + 8 + 4 then ⟨-1, skb, tkey⟩
  else if keyByte &&& extIv = 0 then ⟨-2, skb, tkey⟩
  else if keyIdxOf keyByte ≠ tkey.keyIdx then ⟨-6, skb, tkey⟩
  else if !tkey.keySet then ⟨-3, skb, tkey⟩
  else
    let iv16 := hdrIv16 skb.data hdrLen
    let iv32 := hdrIv32 skb.data hdrLen
    let ttak := tkey.rxPhase1 (addr2 skb.data) iv32
    let plen := skb.len - hdrLen - 12
    let plain := arc4Crypt (tkipMixingPhase2 tkey.key ttak iv16) (skb.data.drop (hdrLen + 8))
    let opened := { skb with data := skb.data.take (hdrLen + 8) ++ plain }
    if prim.icv (plain.take plen) ≠ plain.drop plen then
      -- the first phase of `rx_iv32` is lost if this frame had another
      ⟨-5, opened, { tkey with
        rxTtak := ttak, rxPhase1Done := iv32 == tkey.rxIv32, icvErrors := tkey.icvErrors + 1 }⟩
    else ⟨(keyIdxOf keyByte).val, opened.strip hdrLen 8 4, { tkey with
      rxTtak := ttak, rxPhase1Done := true, rxIv32New := iv32, rxIv16New := iv16 }⟩

/-- `ieee80211_michael_mic_add` -/
def michaelMicAdd (skb : SkBuff) (hdrLen : ℕ) (tkey : TkipData) : CryptRes TkipData :=
  if skb.tailroom < michaelMicLen ∨ skb.len < hdrLen then ⟨-1, skb, tkey⟩
  else
    let mic := prim.michaelMic tkey.txMicKey (michaelMicHdr skb.data ++ skb.data.drop hdrLen)
    ⟨0, skb.put mic, tkey⟩

/-- The length `ieee80211_michael_mic_verify` digests, in 32-bit unsigned arithmetic. -/
def micDataLen (len hdrLen : ℕ) : ℕ := (len + 2 ^ 32 - michaelMicLen - hdrLen) % 2 ^ 32

/-- `ieee80211_michael_mic_verify` -/
def michaelMicVerify (skb : SkBuff) (_keyidx : Int) (hdrLen : ℕ) (tkey : TkipData) :
    CryptRes TkipData :=
  if !tkey.keySet then ⟨-1, skb, tkey⟩
  else
    let mic := prim.michaelMic tkey.rxMicKey (michaelMicHdr skb.data ++
      slice hdrLen (micDataLen skb.len hdrLen) (skb.data ++ skb.behind))
    if mic ≠ skb.data.drop (skb.len - michaelMicLen) then
      ⟨-1, skb, { tkey with localMicFailures := tkey.localMicFailures + 1 }⟩
    else ⟨0, skb.trim (skb.len - michaelMicLen),
      { tkey with rxIv32 := tkey.rxIv32New, rxIv16 := tkey.rxIv16New }⟩

end

/-- A cleared context, which keeps its slot. -/
def TkipData.cleared (idx : KeyIdx) : TkipData :=
  let ttak : Ttak := ⟨0, 0, 0, 0, 0⟩
  ⟨List.replicate tkipKeyLen 0, false, 0, 0, ttak, false, 0, 0, ttak, false, 0, 0, 0, 0, 0, idx⟩

/-- `ieee80211_tkip_init` -/
def tkipInit (idx : KeyIdx) : TkipData := TkipData.cleared idx

/-- `ieee80211_tkip_set_key`: the counter starts at 1; `seq` is the receive
counter, least significant byte first. -/
def tkipSetKey (key : List UInt8) (seq : Option (List UInt8)) (tkey : TkipData) : Int × TkipData :=
  let cleared := TkipData.cleared tkey.keyIdx
  if key.length = tkipKeyLen then
    (0, { cleared with
      key := key, keySet := true, txIv16 := 1,
      rxIv32 := match seq with
        | some s => ((at8 s 5).toUInt32 <<< 24) ||| ((at8 s 4).toUInt32 <<< 16) |||
            ((at8 s 3).toUInt32 <<< 8) ||| (at8 s 2).toUInt32
        | none => 0
      rxIv16 := match seq with | some s => mk16 (at8 s 1) (at8 s 0) | none => 0 })
  else if key.length = 0 then (0, cleared)
  else (-1, cleared)

/-! ### What the operations leave -/

section

variable {prim : Primitives} {skb : SkBuff} {hdrLen : ℕ} {tkey : TkipData}

theorem tkipEncrypt_fail (h : (tkipEncrypt prim skb hdrLen tkey).ret < 0) :
    (tkipEncrypt prim skb hdrLen tkey).skb = skb := by
  by_cases hc : skb.headroom < 8 ∨ skb.tailroom < 4 ∨ skb.len < hdrLen
  · rw [tkipEncrypt, if_pos hc]
  · rw [tkipEncrypt, if_neg hc] at h
    exact absurd h (by simp)

variable (prim) in
/-- The frame an encryption makes: the IVs, then payload and ICV under the key
of the second phase. -/
def tkipFrame (tk : List UInt8) (idx : KeyIdx) (ttak : Ttak) (iv32 : UInt32) (iv16 : UInt16)
    (hdr payload : List UInt8) : List UInt8 :=
  let rc4key := tkipMixingPhase2 tk ttak iv16
  hdr ++ (rc4key.take 3 ++ [keyIdxByte idx ||| extIv] ++ le32 iv32) ++
    arc4Crypt rc4key (payload ++ prim.icv payload)

theorem tkipEncrypt_ok {hdr payload : List UInt8} (hd : skb.data = hdr ++ payload)
    (hh : 8 ≤ skb.headroom) (ht : 4 ≤ skb.tailroom) :
    (tkipEncrypt prim skb hdr.length tkey).ret = 0 ∧
    (tkipEncrypt prim skb hdr.length tkey).priv = { tkey with
      txTtak := tkey.txPhase1 (addr2 skb.data)
      txPhase1Done := tkey.txIv16 + 1 != 0
      txIv16 := tkey.txIv16 + 1
      txIv32 := if tkey.txIv16 + 1 = 0 then tkey.txIv32 + 1 else tkey.txIv32 } ∧
    (tkipEncrypt prim skb hdr.length tkey).skb.data =
      tkipFrame prim tkey.key tkey.keyIdx (tkey.txPhase1 (addr2 skb.data)) tkey.txIv32 tkey.txIv16
        hdr payload := by
  have hlen : skb.len = hdr.length + payload.length := by rw [SkBuff.len, hd, List.length_append]
  rw [tkipEncrypt, if_neg (by omega)]
  refine ⟨rfl, rfl, ?_⟩
  set rc4key := tkipMixingPhase2 tkey.key (tkey.txPhase1 (addr2 skb.data)) tkey.txIv16 with hkey
  set iv := rc4key.take 3 ++ [keyIdxByte tkey.keyIdx ||| extIv] ++ le32 tkey.txIv32 with hiv
  have hfront : (hdr ++ iv).length = hdr.length + 8 := List.length_append
  have hpayload : skb.data.drop hdr.length = payload := by rw [hd, List.drop_left]
  have hmade : ((skb.insertIv hdr.length iv).put (prim.icv payload)).data =
      hdr ++ iv ++ (payload ++ prim.icv payload) := by
    rw [SkBuff.put_data, SkBuff.insertIv_data, hpayload, hd, List.take_left, List.append_assoc _ payload]
  simp only [hpayload, ← hiv, hmade, List.take_left' hfront, List.drop_left' hfront, tkipFrame, ← hkey]

/-- An encrypted fragment grows by the IVs and the ICV. -/
theorem tkipEncrypt_len (h : 0 ≤ (tkipEncrypt prim skb hdrLen tkey).ret) :
    (tkipEncrypt prim skb hdrLen tkey).skb.len = skb.len + 12 := by
  by_cases hc : skb.headroom < 8 ∨ skb.tailroom < 4 ∨ skb.len < hdrLen
  · rw [tkipEncrypt, if_pos hc] at h
    exact absurd h (by simp)
  · have h3 : ∀ ttak iv16, ((tkipMixingPhase2 tkey.key ttak iv16).take 3).length = 3 := fun _ _ => rfl
    have hl : hdrLen ≤ skb.data.length := by unfold SkBuff.len at hc; omega
    rw [tkipEncrypt, if_neg hc]
    simp only [SkBuff.len, SkBuff.put_data, SkBuff.insertIv_data, List.length_append,
      List.length_take, List.length_drop, length_arc4Crypt, Primitives.length_icv, h3, le32,
      List.length_cons, List.length_nil]
    omega

/-- The MIC is appended, or nothing is done. -/
theorem michaelMicAdd_data : (michaelMicAdd prim skb hdrLen tkey).skb.data = skb.data ∧
      (michaelMicAdd prim skb hdrLen tkey).ret = -1 ∨
    (∃ mic, mic.length = michaelMicLen ∧
      (michaelMicAdd prim skb hdrLen tkey).skb.data = skb.data ++ mic) ∧
      (michaelMicAdd prim skb hdrLen tkey).ret = 0 := by
  unfold michaelMicAdd
  dsimp only
  split_ifs
  · exact Or.inl ⟨rfl, rfl⟩
  · exact Or.inr ⟨⟨_, prim.length_michaelMic _ _, rfl⟩, rfl⟩

variable (prim skb hdrLen tkey) in
/-- What decryption does to the counters: a frame that is accepted writes its
number to `rx_iv32_new` and `rx_iv16_new`, no other frame does. -/
theorem tkipDecrypt_priv :
    (0 ≤ (tkipDecrypt prim skb hdrLen tkey).ret ∧
      (tkipDecrypt prim skb hdrLen tkey).priv = { tkey with
        rxTtak := tkey.rxPhase1 (addr2 skb.data) (hdrIv32 skb.data hdrLen), rxPhase1Done := true,
        rxIv32New := hdrIv32 skb.data hdrLen, rxIv16New := hdrIv16 skb.data hdrLen }) ∨
    ((tkipDecrypt prim skb hdrLen tkey).ret < 0 ∧ ∃ ttak done e,
      (tkipDecrypt prim skb hdrLen tkey).priv =
        { tkey with rxTtak := ttak, rxPhase1Done := done, icvErrors := e }) := by
  unfold tkipDecrypt
  dsimp only
  split_ifs
  · exact Or.inr ⟨by simp, _, _, _, rfl⟩
  · exact Or.inr ⟨by simp, _, _, _, rfl⟩
  · exact Or.inr ⟨by simp, _, _, _, rfl⟩
  · exact Or.inr ⟨by simp, _, _, _, rfl⟩
  · exact Or.inr ⟨by simp, _, _, _, rfl⟩
  · exact Or.inl ⟨by simp, rfl⟩

/-- The receive counters play no part in decryption, but for the first phase
that is kept with them. -/
theorem tkipDecrypt_congr {tkey' : TkipData} (hidx : tkey'.keyIdx = tkey.keyIdx)
    (hset : tkey'.keySet = tkey.keySet) (hkey : tkey'.key = tkey.key)
    (hphase : tkey'.rxPhase1 (addr2 skb.data) (hdrIv32 skb.data hdrLen) =
      tkey.rxPhase1 (addr2 skb.data) (hdrIv32 skb.data hdrLen)) :
    (tkipDecrypt prim skb hdrLen tkey').ret = (tkipDecrypt prim skb hdrLen tkey).ret ∧
      (tkipDecrypt prim skb hdrLen tkey').skb = (tkipDecrypt prim skb hdrLen tkey).skb := by
  unfold tkipDecrypt
  dsimp only
  rw [hidx, hset, hkey, hphase]
  split_ifs <;> exact ⟨rfl, rfl⟩

section

variable (idx : KeyIdx) (tk : List UInt8) (ttak : Ttak) (iv32 : UInt32) (iv16 : UInt16)
  (hdr payload : List UInt8)

/-- A byte of the header `tkip_encrypt` writes. -/
theorem at8_tkipFrame {k : ℕ} (hk : k < 8) :
    at8 (tkipFrame prim tk idx ttak iv32 iv16 hdr payload) (hdr.length + k) =
      at8 ([hi8 iv16, (hi8 iv16 ||| 0x20) &&& 0x7F, lo8 iv16, keyIdxByte idx ||| extIv] ++ le32 iv32)
        k := by
  rw [tkipFrame, List.append_assoc, at8_append_right _ (by omega), Nat.add_sub_cancel_left,
    at8_append_left _ hk]
  rfl

/-- The counter of a frame is read where it was written. -/
theorem hdrIv_tkipFrame :
    hdrIv16 (tkipFrame prim tk idx ttak iv32 iv16 hdr payload) hdr.length = iv16 ∧
      hdrIv32 (tkipFrame prim tk idx ttak iv32 iv16 hdr payload) hdr.length = iv32 := by
  have hbyte := fun k hk => @at8_tkipFrame prim idx tk ttak iv32 iv16 hdr payload k hk
  have hzero := hbyte 0 (by omega)
  rw [Nat.add_zero] at hzero
  constructor
  · rw [hdrIv16, hzero, hbyte 2 (by omega)]
    exact mk16_hi8_lo8 iv16
  · rw [hdrIv32, hbyte 4 (by omega), hbyte 5 (by omega), hbyte 6 (by omega), hbyte 7 (by omega)]
    exact le32_read iv32

end

/-- **TKIP round trip** of one frame: a receiver that mixes the same key for it
accepts it, and takes off what encryption added. -/
theorem tkipDecrypt_encrypted {tk hdr payload : List UInt8} {ttak : Ttak} {iv32 : UInt32}
    {iv16 : UInt16} (hset : tkey.keySet = true)
    (hd : skb.data = tkipFrame prim tk tkey.keyIdx ttak iv32 iv16 hdr payload)
    (hmix : tkipMixingPhase2 tkey.key (tkey.rxPhase1 (addr2 skb.data) iv32) iv16 =
      tkipMixingPhase2 tk ttak iv16) :
    (tkipDecrypt prim skb hdr.length tkey).ret = tkey.keyIdx.val ∧
    (tkipDecrypt prim skb hdr.length tkey).priv = { tkey with
      rxTtak := tkey.rxPhase1 (addr2 skb.data) iv32, rxPhase1Done := true
      rxIv32New := iv32, rxIv16New := iv16 } ∧
    (tkipDecrypt prim skb hdr.length tkey).skb.data = hdr ++ payload := by
  obtain ⟨h16, h32⟩ := @hdrIv_tkipFrame prim tkey.keyIdx tk ttak iv32 iv16 hdr payload
  have h3 := @at8_tkipFrame prim tkey.keyIdx tk ttak iv32 iv16 hdr payload 3 (by omega)
  rw [← hd] at h16 h32 h3
  replace h3 : at8 skb.data (hdr.length + 3) = keyIdxByte tkey.keyIdx ||| extIv := h3
  set rc4key := tkipMixingPhase2 tk ttak iv16 with hkey
  set front := hdr ++ (rc4key.take 3 ++ [keyIdxByte tkey.keyIdx ||| extIv] ++ le32 iv32) with hfrontdef
  replace hd : skb.data = front ++ arc4Crypt rc4key (payload ++ prim.icv payload) := hd
  have hfront : front.length = hdr.length + 8 := List.length_append
  have hlen : skb.len = hdr.length + 8 + (payload.length + 4) := by
    rw [SkBuff.len, hd, List.length_append, hfront, length_arc4Crypt, List.length_append,
      prim.length_icv]
  have hdl : skb.len - hdr.length - 12 = payload.length := by omega
  have hplain : arc4Crypt rc4key (skb.data.drop (hdr.length + 8)) = payload ++ prim.icv payload := by
    rw [hd, List.drop_left' hfront, arc4Crypt_arc4Crypt]
  have htake : skb.data.take (hdr.length + 8) = front := by rw [hd, List.take_left' hfront]
  unfold tkipDecrypt
  dsimp only
  rw [h3, if_neg (by omega), if_neg (byte_extIv_ne _), if_neg (by simp), if_neg (by simp [hset]), h16,
    h32, hmix, hplain, hdl, List.take_left, List.drop_left, if_neg (by simp)]
  refine ⟨by simp, rfl, ?_⟩
  rw [htake, SkBuff.strip_data _ _ _ hfront rfl (by simp), hfrontdef, List.take_left,
    List.length_append, prim.length_icv, Nat.add_sub_cancel, List.take_left]

/-- What an accepted frame leaves: the header it came with, and the payload
without the IVs and the ICV. -/
theorem tkipDecrypt_hdr (h : 0 ≤ (tkipDecrypt prim skb hdrLen tkey).ret) :
    hdrLen + 12 ≤ skb.len ∧ (tkipDecrypt prim skb hdrLen tkey).skb.len = skb.len - 12 ∧
      (tkipDecrypt prim skb hdrLen tkey).skb.data.take hdrLen = skb.data.take hdrLen := by
  unfold tkipDecrypt at h ⊢
  dsimp only at h ⊢
  split_ifs at h ⊢ with h1
  · exact absurd h (by simp)
  · exact absurd h (by simp)
  · exact absurd h (by simp)
  · exact absurd h (by simp)
  · exact absurd h (by simp)
  · unfold SkBuff.len at h1 ⊢
    have hfront : (skb.data.take (hdrLen + 8)).length = hdrLen + 8 := by
      rw [List.length_take]
      omega
    have hhdr : (skb.data.take hdrLen).length = hdrLen := by
      rw [List.length_take]
      omega
    rw [SkBuff.strip_data _ _ _ hfront rfl (by simp; omega), List.take_take, min_eq_left (by omega),
      List.take_left' hhdr, List.length_append, hhdr, List.length_take, length_arc4Crypt,
      List.length_drop]
    exact ⟨by omega, by omega, rfl⟩

/-- The MIC is cut off at the end. -/
theorem michaelMicVerify_prefix (keyidx : Int) :
    (michaelMicVerify prim skb keyidx hdrLen tkey).skb.data <+: skb.data := by
  unfold michaelMicVerify
  dsimp only
  split_ifs
  · exact List.prefix_refl _
  · exact List.prefix_refl _
  · rw [SkBuff.trim_data]
    exact List.take_prefix _ _

variable (prim skb hdrLen tkey) in
/-- What verification does to the counters: they move when the MIC is good. -/
theorem michaelMicVerify_priv (keyidx : Int) :
    (0 ≤ (michaelMicVerify prim skb keyidx hdrLen tkey).ret ∧
      (michaelMicVerify prim skb keyidx hdrLen tkey).priv =
        { tkey with rxIv32 := tkey.rxIv32New, rxIv16 := tkey.rxIv16New } ∧
      (michaelMicVerify prim skb keyidx hdrLen tkey).skb.len = skb.len - michaelMicLen) ∨
    ((michaelMicVerify prim skb keyidx hdrLen tkey).ret < 0 ∧ ∃ n,
      (michaelMicVerify prim skb keyidx hdrLen tkey).priv = { tkey with localMicFailures := n }) := by
  unfold michaelMicVerify
  dsimp only
  split_ifs
  · exact Or.inr ⟨by simp, _, rfl⟩
  · exact Or.inr ⟨by simp, _, rfl⟩
  · refine Or.inl ⟨by simp, rfl, ?_⟩
    rw [SkBuff.len, SkBuff.trim_data, List.length_take]
    unfold SkBuff.len
    omega

end

end Rtl8187
