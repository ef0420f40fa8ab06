/-
# WEP

`ieee80211_crypt_wep.c`. The IV counter is 32 bits wide and its low 24 bits go
out with the frame; the ICV is the CRC of the payload, encrypted with it.

Key definitions: `WepData`, `prism2WepEncrypt`, `prism2WepDecrypt`, `prism2WepSetKey`.
Key theorems: `prism2WepDecrypt_encrypt`.
-/
import Rtl8187.Crypt
import Rtl8187.Arc4

namespace Rtl8187

open Bytes

/-- `WEP_KEY_LEN` -/
def wepKeyLen : ℕ := 13

/-- `struct prism2_wep_data`; `key_len` is the length of `key`. -/
structure WepData where
  iv : UInt32
  key : List UInt8
  keyIdx : KeyIdx
  key_le : key.length ≤ wepKeyLen

namespace WepData

/-- The counter for the next frame. It steps over the IVs (B, 0xff, N) that
are weak for a key of this length. -/
def nextIv (wep : WepData) : UInt32 :=
  let iv := wep.iv + 1
  let B := (iv >>> 16) &&& 0xff
  if iv &&& 0xff00 = 0xff00 ∧ 3 ≤ B.toNat ∧ B.toNat < 3 + wep.key.length then iv + 0x0100 else iv

/-- The three bytes of an IV in the frame and at the front of the ARC4 key. -/
def ivBytes (iv : UInt32) : List UInt8 :=
  [(iv >>> 16).toUInt8, (iv >>> 8).toUInt8, iv.toUInt8]

end WepData

section

variable (prim : Primitives)

/-- `prism2_wep_encrypt` -/
def prism2WepEncrypt (skb : SkBuff) (hdrLen : ℕ) (wep : WepData) : CryptRes WepData :=
  if skb.headroom < 4 ∨ skb.tailroom < 4 ∨ skb.len < hdrLen then ⟨-1, skb, wep⟩
  else
    let iv := wep.nextIv
    let key := WepData.ivBytes iv ++ wep.key
    let skb := skb.insertIv hdrLen (WepData.ivBytes iv ++ [keyIdxByte wep.keyIdx])
    let payload := skb.data.drop (hdrLen + 4)
    let skb := skb.put (prim.icv payload)
    let skb := { skb with
      data := skb.data.take (hdrLen + 4) ++ arc4Crypt key (skb.data.drop (hdrLen + 4)) }
    ⟨0, skb, { wep with iv := iv }⟩

/-- `prism2_wep_decrypt`. A frame with a bad ICV stays decrypted in the buffer. -/
def prism2WepDecrypt (skb : SkBuff) (hdrLen : ℕ) (wep : WepData) : CryptRes WepData :=
  if skb.len < hdrLen + 8 then ⟨-1, skb, wep⟩
  else if keyIdxOf (at8 skb.data (hdrLen + 3)) ≠ wep.keyIdx then ⟨-1, skb, wep⟩
  else
    let key := slice hdrLen 3 skb.data ++ wep.key
    let plen := skb.len - hdrLen - 8
    let plain := arc4Crypt key (skb.data.drop (hdrLen + 4))
    let skb := { skb with data := skb.data.take (hdrLen + 4) ++ plain }
    if prim.icv (plain.take plen) ≠ plain.drop plen then ⟨-2, skb, wep⟩
    else ⟨0, skb.strip hdrLen 4 4, wep⟩

end

/-- `prism2_wep_set_key` -/
def prism2WepSetKey (key : List UInt8) (wep : WepData) : Int × WepData :=
  if h : key.length ≤ wepKeyLen then (0, { wep with key := key, key_le := h }) else (-1, wep)

/-! ### What the operations leave -/

section

variable {prim : Primitives} {skb : SkBuff} {hdrLen : ℕ} {wep : WepData}

theorem prism2WepEncrypt_fail (h : (prism2WepEncrypt prim skb hdrLen wep).ret < 0) :
    (prism2WepEncrypt prim skb hdrLen wep).skb = skb := by
  unfold prism2WepEncrypt at h ⊢
  split_ifs at h ⊢
  · rfl
  · exact absurd h (by simp)

variable (prim) in
/-- The frame an encryption makes: the IV goes between header and payload,
the encrypted ICV at the end. -/
def wepFrame (key iv : List UInt8) (idx : KeyIdx) (hdr payload : List UInt8) : List UInt8 :=
  hdr ++ (iv ++ [keyIdxByte idx]) ++ arc4Crypt (iv ++ key) (payload ++ prim.icv payload)

variable (prim wep) in
theorem prism2WepEncrypt_ok {hdr payload : List UInt8} (hd : skb.data = hdr ++ payload)
    (hh : 4 ≤ skb.headroom) (ht : 4 ≤ skb.tailroom) :
    (prism2WepEncrypt prim skb hdr.length wep).ret = 0 ∧
    (prism2WepEncrypt prim skb hdr.length wep).priv = { wep with iv := wep.nextIv } ∧
    (prism2WepEncrypt prim skb hdr.length wep).skb.data =
      wepFrame prim wep.key (WepData.ivBytes wep.nextIv) wep.keyIdx hdr payload := by
  have hlen : skb.len = hdr.length + payload.length := by rw [SkBuff.len, hd, List.length_append]
  have hfront : (hdr ++ (WepData.ivBytes wep.nextIv ++ [keyIdxByte wep.keyIdx])).length =
      hdr.length + 4 := List.length_append
  rw [prism2WepEncrypt, if_neg (by omega)]
  refine ⟨rfl, rfl, ?_⟩
  simp only [SkBuff.insertIv_data, SkBuff.put_data, hd, List.take_left, List.drop_left]
  rw [List.drop_left' hfront, List.append_assoc (hdr ++ _), List.take_left' hfront,
    List.drop_left' hfront, wepFrame]

theorem prism2WepEncrypt_grow (h : 0 ≤ (prism2WepEncrypt prim skb hdrLen wep).ret) :
    skb.len < (prism2WepEncrypt prim skb hdrLen wep).skb.len := by
  by_cases hc : skb.headroom < 4 ∨ skb.tailroom < 4 ∨ skb.len < hdrLen
  · rw [prism2WepEncrypt, if_pos hc] at h
    exact absurd h (by simp)
  · have hroom : 4 ≤ skb.headroom ∧ 4 ≤ skb.tailroom ∧ hdrLen ≤ skb.len := by omega
    have hhdr : (skb.data.take hdrLen).length = hdrLen := List.length_take_of_le hroom.2.2
    obtain ⟨-, -, hd⟩ := prism2WepEncrypt_ok prim wep (List.take_append_drop hdrLen skb.data).symm
      hroom.1 hroom.2.1
    rw [hhdr] at hd
    unfold SkBuff.len at hroom ⊢
    simp only [hd, wepFrame, List.length_append, hhdr, List.length_drop, length_arc4Crypt,
      Primitives.length_icv]
    omega

/-- What an accepted frame was, and what is left of it. -/
theorem prism2WepDecrypt_data (h : 0 ≤ (prism2WepDecrypt prim skb hdrLen wep).ret) :
    hdrLen + 8 ≤ skb.len ∧ (prism2WepDecrypt prim skb hdrLen wep).skb.data = skb.data.take hdrLen ++
      (arc4Crypt (slice hdrLen 3 skb.data ++ wep.key) (skb.data.drop (hdrLen + 4))).take
        (skb.len - hdrLen - 8) := by
  unfold prism2WepDecrypt at h ⊢
  dsimp only at h ⊢
  split_ifs at h ⊢ with h1
  · exact absurd h (by simp)
  · exact absurd h (by simp)
  · exact absurd h (by simp)
  · unfold SkBuff.len at h1 ⊢
    have hfront : (skb.data.take (hdrLen + 4)).length = hdrLen + 4 := by
      rw [List.length_take]
      omega
    refine ⟨by omega, ?_⟩
    rw [SkBuff.strip_data _ _ _ hfront rfl (by simp; omega), List.take_take, min_eq_left (by omega),
      length_arc4Crypt, List.length_drop]
    congr 2

/-- An accepted frame starts with the header it came with. -/
theorem prism2WepDecrypt_hdr (h : 0 ≤ (prism2WepDecrypt prim skb hdrLen wep).ret) :
    hdrLen ≤ (prism2WepDecrypt prim skb hdrLen wep).skb.len ∧
      (prism2WepDecrypt prim skb hdrLen wep).skb.data.take hdrLen = skb.data.take hdrLen := by
  obtain ⟨hl, hd⟩ := prism2WepDecrypt_data h
  have hhdr : (skb.data.take hdrLen).length = hdrLen := by
    unfold SkBuff.len at hl
    rw [List.length_take]
    omega
  rw [SkBuff.len, hd, List.take_left' hhdr, List.length_append, hhdr]
  exact ⟨by omega, rfl⟩

/-- **WEP round trip.** A frame encrypted under the receiver's key, whatever
the IV, is accepted and loses what encryption added. -/
theorem prism2WepDecrypt_encrypted {hdr payload iv : List UInt8} (hiv : iv.length = 3)
    (hd : skb.data = wepFrame prim wep.key iv wep.keyIdx hdr payload) :
    (prism2WepDecrypt prim skb hdr.length wep).ret = 0 ∧
    (prism2WepDecrypt prim skb hdr.length wep).priv = wep ∧
    (prism2WepDecrypt prim skb hdr.length wep).skb.data = hdr ++ payload := by
  unfold wepFrame at hd
  have hlen : skb.len = hdr.length + 4 + (payload.length + 4) := by
    simp [SkBuff.len, hd, hiv]
    omega
  have hfront : (hdr ++ (iv ++ [keyIdxByte wep.keyIdx])).length = hdr.length + 4 := by simp [hiv]
  have hbyte : at8 skb.data (hdr.length + 3) = keyIdxByte wep.keyIdx := by
    rw [hd, at8_append_left _ (by omega), at8_append_right _ (by omega), Nat.add_sub_cancel_left,
      at8_append_right _ (by omega), hiv]
    rfl
  have hkey : slice hdr.length 3 skb.data = iv := by
    rw [hd, List.append_assoc, slice, List.drop_left, List.append_assoc, List.take_left' hiv]
  have hplain : arc4Crypt (iv ++ wep.key) (skb.data.drop (hdr.length + 4)) =
      payload ++ prim.icv payload := by
    rw [hd, List.drop_left' hfront, arc4Crypt_arc4Crypt]
  have hplen : skb.len - hdr.length - 8 = payload.length := by omega
  unfold prism2WepDecrypt
  dsimp only
  rw [if_neg (by omega), if_neg (by simp [hbyte]), hkey, hplain, hplen, List.take_left,
    List.drop_left, if_neg (by simp)]
  refine ⟨rfl, rfl, ?_⟩
  have htake : skb.data.take (hdr.length + 4) = hdr ++ (iv ++ [keyIdxByte wep.keyIdx]) := by
    rw [hd, List.take_left' hfront]
  rw [htake, SkBuff.strip_data _ _ _ hfront rfl (by simp), List.take_left]
  simp

end

end Rtl8187
