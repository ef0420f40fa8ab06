/-
# CCMP

`ieee80211_crypt_ccmp.c`, over an arbitrary block function. The packet number
is six bytes, most significant first, counted up by a carry loop; the first
block, the additional data and the counter blocks are built from the header.
The receiver writes the number of each frame it accepts to `rx_pn`; the
comparison with it is compiled out.

Key definitions: `Pn`, `CcmpData`, `ccmpInitBlocks`, `ccmpEncrypt`, `ccmpDecrypt`,
`ccmpSetKey`.
Key theorems: `ccmpDecrypt_encrypted`, `ccmpDecrypt_accept`.
-/
import Rtl8187.Crypt
import Rtl8187.Lib.Ccm
import Mathlib.Tactic.Set

namespace Rtl8187

open Bytes

/-- `CCMP_HDR_LEN` -/
def ccmpHdrLen : ℕ := 8

/-- `CCMP_MIC_LEN` -/
def ccmpMicLen : ℕ := 8

/-- `CCMP_TK_LEN` -/
def ccmpTkLen : ℕ := 16

/-- The carry loop over the bytes of a packet number, from the last one on:
the bytes, and whether the first wrapped. -/
def incrBytes : List UInt8 → List UInt8 × Bool
  | [] => ([], true)
  | b :: bs =>
    let r := incrBytes bs
    if r.2 then ((b + 1) :: r.1, b + 1 == 0) else (b :: r.1, false)

theorem length_incrBytes : ∀ bs, (incrBytes bs).1.length = bs.length
  | [] => rfl
  | b :: bs => by
    have ih := length_incrBytes bs
    unfold incrBytes
    dsimp only
    split_ifs <;> simp [ih]

/-- A packet number: `CCMP_PN_LEN` bytes. -/
structure Pn where
  bytes : List UInt8
  length_eq : bytes.length = 6
  deriving DecidableEq

namespace Pn

def zero : Pn := ⟨List.replicate 6 0, rfl⟩

/-- The number the bytes stand for. -/
def toNat (pn : Pn) : ℕ := pn.bytes.foldl (fun n b => 256 * n + b.toNat) 0

def incr (pn : Pn) : Pn := ⟨(incrBytes pn.bytes).1, (length_incrBytes _).trans pn.length_eq⟩

/-- The number in the eight bytes of a CCMP header at `i`. -/
def ofHdr (d : List UInt8) (i : ℕ) : Pn :=
  ⟨[at8 d (i + 7), at8 d (i + 6), at8 d (i + 5), at8 d (i + 4), at8 d (i + 1), at8 d i], rfl⟩

/-- The number in the receive sequence of a `set_key`, least significant byte first. -/
def ofSeq (seq : List UInt8) : Pn :=
  ⟨[at8 seq 5, at8 seq 4, at8 seq 3, at8 seq 2, at8 seq 1, at8 seq 0], rfl⟩

/-- The CCMP header of a frame with this number. -/
def ccmpHdr (pn : Pn) (idx : KeyIdx) : List UInt8 :=
  [at8 pn.bytes 5, at8 pn.bytes 4, 0, keyIdxByte idx ||| extIv,
    at8 pn.bytes 3, at8 pn.bytes 2, at8 pn.bytes 1, at8 pn.bytes 0]

/-- A header is read the same wherever it stands. -/
theorem ofHdr_shift {d h : List UInt8} {i : ℕ} (hk : ∀ k < 8, at8 d (i + k) = at8 h k) :
    ofHdr d i = ofHdr h 0 := by
  simp only [ofHdr, hk 7 (by omega), hk 6 (by omega), hk 5 (by omega), hk 4 (by omega),
    hk 1 (by omega), Nat.zero_add, ← hk 0 (by omega), Nat.add_zero]

/-- The header gives the number back. -/
theorem ofHdr_ccmpHdr (pn : Pn) (idx : KeyIdx) : ofHdr (pn.ccmpHdr idx) 0 = pn := by
  obtain ⟨bs, hbs⟩ := pn
  match bs, hbs with
  | [_, _, _, _, _, _], _ => rfl

end Pn

/-- `struct ieee80211_ccmp_data`. `tfm` is the key the block cipher was last
given: `set_key` can clear `key` and leave the cipher as it was. -/
structure CcmpData where
  key : List UInt8
  keySet : Bool
  txPn : Pn
  rxPn : Pn
  formatErrors : UInt32
  replays : UInt32
  decryptErrors : UInt32
  keyIdx : KeyIdx
  tfm : List UInt8

section

variable (prim : Primitives)

/-- What `ccmp_init_blocks` computes. -/
structure CcmpBlocks where
  /-- The counter block, less its counter. -/
  b0 : List UInt8
  auth : List UInt8
  s0 : List UInt8

/-- `ccmp_init_blocks` on the frame `hdr`, which starts with its header. -/
def ccmpInitBlocks (tfm hdr : List UInt8) (pn : Pn) (dlen : ℕ) : CcmpBlocks :=
  let fc := frameCtl hdr
  let a4 := decide (dsBits fc = fctlTods ||| fctlFromds)
  let qcIncluded := decide (fcType fc = ftypeData ∧ fcStype fc &&& 0x80 ≠ 0)
  let qc := if qcIncluded then at8 hdr (if a4 then 30 else 24) &&& 0x0f else 0
  let aadLen := 22 + (if a4 then 6 else 0) + (if qcIncluded then 2 else 0)
  let nonce := qc :: (addr2 hdr).toList ++ pn.bytes
  let aad := [0, UInt8.ofNat aadLen, at8 hdr 0 &&& 0x8f, at8 hdr 1 &&& 0xc7] ++ slice 4 18 hdr ++
    [at8 hdr 22 &&& 0x0f, 0] ++ (if a4 then slice 24 6 hdr ++ [qc, 0] else qc :: List.replicate 7 0)
  let auth := prim.aes tfm (0x59 :: nonce ++ [UInt8.ofNat (dlen / 256), UInt8.ofNat dlen])
  let auth := prim.aes tfm (xorBytes auth (aad.take 16))
  let auth := prim.aes tfm (xorBytes auth (aad.drop 16))
  let b0 := (0x59 &&& 0x07) :: nonce
  ⟨b0, auth, prim.aes tfm (b0 ++ [0, 0])⟩

/-- The counter block `i`. -/
def CcmpBlocks.ctr (bl : CcmpBlocks) (i : ℕ) : List UInt8 :=
  bl.b0 ++ [UInt8.ofNat (i / 256), UInt8.ofNat i]

/-- The masked MIC. -/
def CcmpBlocks.mic (bl : CcmpBlocks) (mac : List UInt8) : List UInt8 :=
  xorBytes (mac.take ccmpMicLen) (bl.s0.take ccmpMicLen)

/-- `ieee80211_ccmp_encrypt`. It does not look at `key_set`. -/
def ccmpEncrypt (skb : SkBuff) (hdrLen : ℕ) (key : CcmpData) : CryptRes CcmpData :=
  if skb.headroom < ccmpHdrLen ∨ skb.tailroom < ccmpMicLen ∨ skb.len < hdrLen then ⟨-1, skb, key⟩
  else
    let dataLen := skb.len - hdrLen
    let pn := key.txPn.incr
    let skb := skb.insertIv hdrLen (pn.ccmpHdr key.keyIdx)
    let bl := ccmpInitBlocks prim key.tfm skb.data pn dataLen
    let r := Ccm.sealBlocks (prim.aes key.tfm) bl.ctr (Ccm.blocks dataLen) 1 bl.auth
      (skb.data.drop (hdrLen + ccmpHdrLen))
    let skb := { skb with data := skb.data.take (hdrLen + ccmpHdrLen) ++ r.2 }
    ⟨0, skb.put (bl.mic r.1), { key with txPn := pn }⟩

/-- The loops of `ieee80211_ccmp_decrypt` over a frame of `dataLen` bytes of
payload: the MAC, the plaintext and the MIC without its mask. -/
def ccmpOpen (tfm d : List UInt8) (hdrLen dataLen : ℕ) : List UInt8 × List UInt8 × List UInt8 :=
  let bl := ccmpInitBlocks prim tfm d (Pn.ofHdr d hdrLen) dataLen
  let body := d.drop (hdrLen + ccmpHdrLen)
  let r := Ccm.openBlocks (prim.aes tfm) bl.ctr (Ccm.blocks dataLen) 1 bl.auth (body.take dataLen)
  (r.1, r.2, xorBytes (body.drop dataLen) (bl.s0.take ccmpMicLen))

/-- `ieee80211_ccmp_decrypt`. A frame with a bad MIC stays decrypted in the buffer. -/
def ccmpDecrypt (skb : SkBuff) (hdrLen : ℕ) (key : CcmpData) : CryptRes CcmpData :=
  let keyByte := at8 skb.data (hdrLen + 3)
  if skb.len < hdrLen + ccmpHdrLen + ccmpMicLen then
    ⟨-1, skb, { key with formatErrors := key.formatErrors + 1 }⟩
  else if keyByte &&& extIv = 0 then
    ⟨-2, skb, { key with formatErrors := key.formatErrors + 1 }⟩
  else if keyIdxOf keyByte ≠ key.keyIdx then ⟨-6, skb, key⟩
  else if !key.keySet then ⟨-3, skb, key⟩
  else
    let (mac, plain, mic) :=
      ccmpOpen prim key.tfm skb.data hdrLen (skb.len - hdrLen - ccmpHdrLen - ccmpMicLen)
    let opened := { skb with data := skb.data.take (hdrLen + ccmpHdrLen) ++ (plain ++ mic) }
    if mic ≠ mac.take ccmpMicLen then
      ⟨-5, opened, { key with decryptErrors := key.decryptErrors + 1 }⟩
    else ⟨(keyIdxOf keyByte).val, opened.strip hdrLen ccmpHdrLen ccmpMicLen,
      { key with rxPn := Pn.ofHdr skb.data hdrLen }⟩

end

/-- A cleared context, which keeps its slot and what the block cipher was given. -/
def CcmpData.cleared (idx : KeyIdx) (tfm : List UInt8) : CcmpData :=
  ⟨List.replicate ccmpTkLen 0, false, Pn.zero, Pn.zero, 0, 0, 0, idx, tfm⟩

/-- `ieee80211_ccmp_init` -/
def ccmpInit (idx : KeyIdx) : CcmpData := CcmpData.cleared idx []

/-- `ieee80211_ccmp_set_key`: no `seq` leaves the receive number at zero. A
length that is neither that of a key nor zero is refused, with the context
already cleared. -/
def ccmpSetKey (key : List UInt8) (seq : Option (List UInt8)) (data : CcmpData) : Int × CcmpData :=
  let cleared := CcmpData.cleared data.keyIdx data.tfm
  if key.length = ccmpTkLen then
    (0, { cleared with
      key := key, keySet := true, tfm := key,
      rxPn := match seq with | some s => Pn.ofSeq s | none => Pn.zero })
  else if key.length = 0 then (0, cleared)
  else (-1, cleared)

/-! ### What the operations leave -/

section

variable (prim : Primitives)

/-- The blocks depend on the first bytes of the frame only. -/
theorem ccmpInitBlocks_take (tfm d : List UInt8) (pn : Pn) (dlen : ℕ) {k : ℕ} (hk : 30 < k) :
    ccmpInitBlocks prim tfm (d.take k) pn dlen = ccmpInitBlocks prim tfm d pn dlen := by
  have hqc : ∀ a4 : Bool, at8 (d.take k) (if a4 then 30 else 24) = at8 d (if a4 then 30 else 24) := by
    intro a4
    cases a4
    · exact at8_take (by omega : 24 < k)
    · exact at8_take hk
  simp only [ccmpInitBlocks, hqc, frameCtl_take (by omega : 1 < k), addr2_take (by omega : 15 < k),
    at8_take (by omega : 0 < k), at8_take (by omega : 1 < k), at8_take (by omega : 22 < k),
    slice_take (by omega : 4 + 18 ≤ k), slice_take (by omega : 24 + 6 ≤ k)]

variable {skb : SkBuff} {hdrLen : ℕ} {key : CcmpData}

theorem ccmpEncrypt_fail (h : (ccmpEncrypt prim skb hdrLen key).ret < 0) :
    (ccmpEncrypt prim skb hdrLen key).skb = skb := by
  unfold ccmpEncrypt at h ⊢
  dsimp only at h ⊢
  split_ifs at h ⊢
  · rfl
  · exact absurd h (by simp)

/-- The frame an encryption makes. -/
def ccmpFrame (tfm : List UInt8) (pn : Pn) (idx : KeyIdx) (hdr payload : List UInt8) : List UInt8 :=
  let front := hdr ++ pn.ccmpHdr idx
  let bl := ccmpInitBlocks prim tfm (front ++ payload) pn payload.length
  let r := Ccm.sealBlocks (prim.aes tfm) bl.ctr (Ccm.blocks payload.length) 1 bl.auth payload
  front ++ (r.2 ++ bl.mic r.1)

theorem length_ccmpFrame (tfm : List UInt8) (pn : Pn) (idx : KeyIdx) (hdr payload : List UInt8) :
    hdr.length + ccmpHdrLen + payload.length ≤ (ccmpFrame prim tfm pn idx hdr payload).length := by
  have hlen := fun ctr mac => Ccm.length_sealBlocks (prim.aes tfm) ctr (prim.length_aes tfm)
    (Ccm.blocks payload.length) 1 mac payload (Ccm.le_blocks payload.length)
  have h8 : (pn.ccmpHdr idx).length = ccmpHdrLen := rfl
  simp only [ccmpFrame, List.length_append, hlen, h8]
  omega

variable (key) in
theorem ccmpEncrypt_ok {hdr payload : List UInt8} (hd : skb.data = hdr ++ payload)
    (hh : ccmpHdrLen ≤ skb.headroom) (ht : ccmpMicLen ≤ skb.tailroom) :
    (ccmpEncrypt prim skb hdr.length key).ret = 0 ∧
    (ccmpEncrypt prim skb hdr.length key).priv = { key with txPn := key.txPn.incr } ∧
    (ccmpEncrypt prim skb hdr.length key).skb.data =
      ccmpFrame prim key.tfm key.txPn.incr key.keyIdx hdr payload := by
  have hlen : skb.len = hdr.length + payload.length := by rw [SkBuff.len, hd, List.length_append]
  have hiv : (skb.insertIv hdr.length (key.txPn.incr.ccmpHdr key.keyIdx)).data =
      hdr ++ key.txPn.incr.ccmpHdr key.keyIdx ++ payload := by
    rw [SkBuff.insertIv_data, hd, List.take_left, List.drop_left]
  have hfront : (hdr ++ key.txPn.incr.ccmpHdr key.keyIdx).length = hdr.length + ccmpHdrLen :=
    List.length_append
  rw [ccmpEncrypt, if_neg (by omega)]
  refine ⟨rfl, rfl, ?_⟩
  simp only [SkBuff.put_data, hiv, hlen, Nat.add_sub_cancel_left, List.take_left' hfront,
    List.drop_left' hfront, ccmpFrame]
  rw [List.append_assoc _ _ (CcmpBlocks.mic _ _)]

theorem ccmpEncrypt_grow (h : 0 ≤ (ccmpEncrypt prim skb hdrLen key).ret) :
    skb.len < (ccmpEncrypt prim skb hdrLen key).skb.len := by
  by_cases hc : skb.headroom < ccmpHdrLen ∨ skb.tailroom < ccmpMicLen ∨ skb.len < hdrLen
  · rw [ccmpEncrypt, if_pos hc] at h
    exact absurd h (by simp)
  · have hroom : ccmpHdrLen ≤ skb.headroom ∧ ccmpMicLen ≤ skb.tailroom ∧ hdrLen ≤ skb.len := by omega
    have hhdr : (skb.data.take hdrLen).length = hdrLen := List.length_take_of_le hroom.2.2
    obtain ⟨-, -, hd⟩ := ccmpEncrypt_ok prim key (List.take_append_drop hdrLen skb.data).symm hroom.1
      hroom.2.1
    have hlen := length_ccmpFrame prim key.tfm key.txPn.incr key.keyIdx (skb.data.take hdrLen)
      (skb.data.drop hdrLen)
    rw [hhdr] at hd
    rw [hhdr, List.length_drop] at hlen
    have h8 : ccmpHdrLen = 8 := rfl
    unfold SkBuff.len at hroom ⊢
    rw [hd]
    omega

variable (skb hdrLen key) in
/-- What decryption does to the context: a frame that is accepted writes its
number to `rx_pn`, one that is not only counts an error. -/
theorem ccmpDecrypt_priv :
    (0 ≤ (ccmpDecrypt prim skb hdrLen key).ret ∧
      (ccmpDecrypt prim skb hdrLen key).priv = { key with rxPn := Pn.ofHdr skb.data hdrLen }) ∨
    ((ccmpDecrypt prim skb hdrLen key).ret < 0 ∧ ∃ f e,
      (ccmpDecrypt prim skb hdrLen key).priv = { key with formatErrors := f, decryptErrors := e }) := by
  unfold ccmpDecrypt
  dsimp only
  split_ifs
  · exact Or.inr ⟨by simp, _, _, rfl⟩
  · exact Or.inr ⟨by simp, _, _, rfl⟩
  · exact Or.inr ⟨by simp, _, _, rfl⟩
  · exact Or.inr ⟨by simp, _, _, rfl⟩
  · exact Or.inr ⟨by simp, _, _, rfl⟩
  · exact Or.inl ⟨by simp, rfl⟩

/-- The receive number plays no part in decryption. -/
theorem ccmpDecrypt_congr {key' : CcmpData} (hidx : key'.keyIdx = key.keyIdx)
    (hset : key'.keySet = key.keySet) (htfm : key'.tfm = key.tfm) :
    (ccmpDecrypt prim skb hdrLen key').ret = (ccmpDecrypt prim skb hdrLen key).ret ∧
      (ccmpDecrypt prim skb hdrLen key').skb = (ccmpDecrypt prim skb hdrLen key).skb := by
  unfold ccmpDecrypt
  dsimp only
  rw [hidx, hset, htfm]
  split_ifs <;> exact ⟨rfl, rfl⟩

theorem length_ccmpOpen_mic (tfm : List UInt8) {d : List UInt8} {dataLen : ℕ}
    (h : d.length = hdrLen + ccmpHdrLen + dataLen + ccmpMicLen) :
    (ccmpOpen prim tfm d hdrLen dataLen).2.2.length = ccmpMicLen := by
  have h16 : ccmpMicLen ≤ 16 := by decide
  simp only [ccmpOpen, ccmpInitBlocks, length_xorBytes, List.length_drop, List.length_take,
    prim.length_aes]
  omega

theorem length_ccmpOpen (tfm : List UInt8) {d : List UInt8} {dataLen : ℕ}
    (h : d.length = hdrLen + ccmpHdrLen + dataLen + ccmpMicLen) :
    (ccmpOpen prim tfm d hdrLen dataLen).2.1.length = dataLen := by
  have hbody : ((d.drop (hdrLen + ccmpHdrLen)).take dataLen).length = dataLen := by
    rw [List.length_take, List.length_drop]
    omega
  have hcover := hbody.le.trans (Ccm.le_blocks dataLen)
  exact (Ccm.length_openBlocks _ _ (prim.length_aes tfm) _ _ _ _ hcover).trans hbody

/-- An accepted frame has its header, and what was between the CCMP header and
the MIC. -/
theorem ccmpDecrypt_data (h : 0 ≤ (ccmpDecrypt prim skb hdrLen key).ret) : ∃ plain : List UInt8,
    hdrLen + plain.length + 16 = skb.len ∧
      (ccmpDecrypt prim skb hdrLen key).skb.data = skb.data.take hdrLen ++ plain := by
  have hbytes : ccmpHdrLen = 8 ∧ ccmpMicLen = 8 := ⟨rfl, rfl⟩
  unfold ccmpDecrypt at h ⊢
  dsimp only at h ⊢
  split_ifs at h ⊢ with h1
  · exact absurd h (by simp)
  · exact absurd h (by simp)
  · exact absurd h (by simp)
  · exact absurd h (by simp)
  · exact absurd h (by simp)
  · have hl : skb.data.length =
        hdrLen + ccmpHdrLen + (skb.len - hdrLen - ccmpHdrLen - ccmpMicLen) + ccmpMicLen := by
      unfold SkBuff.len at h1 ⊢
      omega
    have hmic := length_ccmpOpen_mic prim key.tfm hl
    have hplain := length_ccmpOpen prim key.tfm hl
    have hfront : (skb.data.take (hdrLen + ccmpHdrLen)).length = hdrLen + ccmpHdrLen := by
      rw [List.length_take]
      omega
    refine ⟨(ccmpOpen prim key.tfm skb.data hdrLen (skb.len - hdrLen - ccmpHdrLen - ccmpMicLen)).2.1, by omega, ?_⟩
    rw [SkBuff.strip_data _ _ _ hfront rfl (by rw [List.length_append, hmic]; omega), List.take_take,
      min_eq_left (by omega), List.length_append, hmic, Nat.add_sub_cancel, List.take_left]

/-- An accepted frame starts with the header it came with. -/
theorem ccmpDecrypt_hdr (h : 0 ≤ (ccmpDecrypt prim skb hdrLen key).ret) :
    hdrLen ≤ (ccmpDecrypt prim skb hdrLen key).skb.len ∧
      (ccmpDecrypt prim skb hdrLen key).skb.data.take hdrLen = skb.data.take hdrLen := by
  obtain ⟨plain, hlen, hdata⟩ := ccmpDecrypt_data prim h
  have hhdr : (skb.data.take hdrLen).length = hdrLen := by
    unfold SkBuff.len at hlen
    rw [List.length_take]
    omega
  rw [SkBuff.len, hdata, List.take_left' hhdr, List.length_append, hhdr]
  exact ⟨Nat.le_add_right _ _, rfl⟩

/-- **CCMP round trip.** A frame encrypted under the receiver's key, whatever
its number, is accepted and loses what encryption added. -/
theorem ccmpDecrypt_encrypted {hdr payload : List UInt8} {pn : Pn} (hh : 24 ≤ hdr.length)
    (hset : key.keySet = true) (hd : skb.data = ccmpFrame prim key.tfm pn key.keyIdx hdr payload) :
    (ccmpDecrypt prim skb hdr.length key).ret = key.keyIdx.val ∧
    (ccmpDecrypt prim skb hdr.length key).priv = { key with rxPn := pn } ∧
    (ccmpDecrypt prim skb hdr.length key).skb.data = hdr ++ payload := by
  set front := hdr ++ pn.ccmpHdr key.keyIdx with hfrontdef
  set bl := ccmpInitBlocks prim key.tfm (front ++ payload) pn payload.length with hbl
  set r := Ccm.sealBlocks (prim.aes key.tfm) bl.ctr (Ccm.blocks payload.length) 1 bl.auth payload
    with hr
  replace hd : skb.data = front ++ (r.2 ++ bl.mic r.1) := hd
  have hfront : front.length = hdr.length + ccmpHdrLen := List.length_append
  have h8 : ccmpHdrLen = 8 := rfl
  have hct : r.2.length = payload.length :=
    Ccm.length_sealBlocks _ _ (prim.length_aes key.tfm) _ _ _ _ (Ccm.le_blocks _)
  have hs0 : (bl.s0.take ccmpMicLen).length = ccmpMicLen := by
    rw [hbl, List.length_take, ccmpInitBlocks, prim.length_aes]
    rfl
  have hmac : (r.1.take ccmpMicLen).length = ccmpMicLen := by
    have hr1 : r.1.length = Ccm.blockLen :=
      Ccm.length_sealBlocks_mac _ _ (prim.length_aes key.tfm) _ _ _ _ (prim.length_aes ..)
    rw [List.length_take, hr1]
    rfl
  have hmic : (bl.mic r.1).length = ccmpMicLen := by
    rw [CcmpBlocks.mic, length_xorBytes, hmac, hs0, min_self]
  have hlen : skb.len = hdr.length + ccmpHdrLen + payload.length + ccmpMicLen := by
    simp only [SkBuff.len, hd, List.length_append, hfront, hct, hmic]
    omega
  have hbyte : ∀ k < 8, at8 skb.data (hdr.length + k) = at8 (pn.ccmpHdr key.keyIdx) k := by
    intro k hk
    rw [hd, at8_append_left _ (by omega), at8_append_right _ (by omega), Nat.add_sub_cancel_left]
  have hpn : Pn.ofHdr skb.data hdr.length = pn := by
    rw [Pn.ofHdr_shift hbyte, Pn.ofHdr_ccmpHdr]
  have hblocks : ccmpInitBlocks prim key.tfm skb.data pn payload.length = bl := by
    rw [← ccmpInitBlocks_take prim key.tfm skb.data pn _ (by omega : 30 < front.length), hd,
      List.take_left, hbl, ← ccmpInitBlocks_take prim key.tfm (front ++ payload) pn _
        (by omega : 30 < front.length), List.take_left]
  have hopen : ccmpOpen prim key.tfm skb.data hdr.length payload.length =
      (r.1, payload, r.1.take ccmpMicLen) := by
    have hblk := Ccm.openBlocks_sealBlocks (prim.aes key.tfm) bl.ctr (prim.length_aes key.tfm)
      (Ccm.blocks payload.length) 1 bl.auth payload (Ccm.le_blocks _)
    have hunmask : xorBytes (bl.mic r.1) (bl.s0.take ccmpMicLen) = r.1.take ccmpMicLen :=
      xorBytes_xorBytes _ _ (by rw [hmac, hs0])
    simp only [ccmpOpen, hpn, hblocks]
    rw [hd, List.drop_left' hfront, List.take_left' hct, List.drop_left' hct, hblk, hunmask]
  have h3 := hbyte 3 (by omega)
  replace h3 : at8 skb.data (hdr.length + 3) = keyIdxByte key.keyIdx ||| extIv := h3
  have hdl : skb.len - hdr.length - ccmpHdrLen - ccmpMicLen = payload.length := by omega
  unfold ccmpDecrypt
  dsimp only
  rw [h3, if_neg (by omega), if_neg (byte_extIv_ne _), if_neg (by simp), if_neg (by simp [hset]), hdl,
    hopen]
  dsimp only
  rw [if_neg (by simp), hpn]
  refine ⟨by simp, rfl, ?_⟩
  have htake : skb.data.take (hdr.length + ccmpHdrLen) = front := by rw [hd, List.take_left' hfront]
  rw [htake, SkBuff.strip_data _ _ _ hfront rfl (by rw [List.length_append, hmac]; omega),
    hfrontdef, List.take_left, List.length_append, hmac, Nat.add_sub_cancel, List.take_left]

end

end Rtl8187
