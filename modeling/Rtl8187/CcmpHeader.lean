/-
# What CCMP protects of a header

The additional data `ccmp_init_blocks` puts together say exactly this of a
header: its frame control but for the bits a repetition may change, the
addresses, the fragment number, and the fourth address and the QoS traffic
identifier where there are such (`ccmpAad_eq_iff`). So frames that differ in
nothing else are decrypted alike, and a change of anything else changes the
additional data.

Key definitions: `ccmpAad`, `Covered`, `ccmpCovered`, `EqualButMasked`.
Key theorems: `ccmpAad_eq_iff`, `ccmp_header_masked`, `ccmp_round_trip`.
-/
import Rtl8187.CryptCcmp
import Rtl8187.Digest

namespace Rtl8187

open Bytes

/-! ### The additional data -/

/-- Whether `ccmp_init_blocks` takes a frame to have a fourth address. -/
def a4Included (fc : UInt16) : Bool := decide (dsBits fc = fctlTods ||| fctlFromds)

/-- Whether it takes a frame to have a QoS control. -/
def qcIncluded (fc : UInt16) : Bool := decide (fcType fc = ftypeData ∧ fcStype fc &&& 0x80 ≠ 0)

/-- The traffic identifier in the QoS control. -/
def ccmpQc (hdr : List UInt8) : UInt8 :=
  if qcIncluded (frameCtl hdr) then at8 hdr (if a4Included (frameCtl hdr) then 30 else 24) &&& 0x0f
  else 0

/-- `aad` in `ccmp_init_blocks`: two blocks. -/
def ccmpAad (hdr : List UInt8) : List UInt8 :=
  let fc := frameCtl hdr
  let aadLen := 22 + (if a4Included fc then 6 else 0) + (if qcIncluded fc then 2 else 0)
  [0, UInt8.ofNat aadLen, at8 hdr 0 &&& 0x8f, at8 hdr 1 &&& 0xc7] ++ slice 4 18 hdr ++
    [at8 hdr 22 &&& 0x0f, 0] ++
    (if a4Included fc then slice 24 6 hdr ++ [ccmpQc hdr, 0] else ccmpQc hdr :: List.replicate 7 0)

/-- These are the blocks of `ccmp_init_blocks`. -/
theorem ccmpInitBlocks_eq (prim : Primitives) (tfm hdr : List UInt8) (pn : Pn) (dlen : ℕ) :
    ccmpInitBlocks prim tfm hdr pn dlen =
      let nonce := ccmpQc hdr :: (addr2 hdr).toList ++ pn.bytes
      let auth := prim.aes tfm (0x59 :: nonce ++ [UInt8.ofNat (dlen / 256), UInt8.ofNat dlen])
      let auth := prim.aes tfm (xorBytes auth ((ccmpAad hdr).take 16))
      ⟨1 :: nonce, prim.aes tfm (xorBytes auth ((ccmpAad hdr).drop 16)),
        prim.aes tfm (1 :: nonce ++ [0, 0])⟩ := by
  unfold ccmpInitBlocks ccmpAad ccmpQc a4Included qcIncluded
  simp only [decide_eq_true_eq]
  rfl

/-! ### What they cover -/

/-- The bits of the frame control that are masked: Retry, Power Management,
MoreData, and bits 4 to 6 of the subtype. -/
def fcMasked : UInt16 := fctlRetry ||| fctlPm ||| fctlMoredata ||| 0x0070

/-- What is covered of a header. -/
structure Covered where
  fc : UInt16
  addr1 : Mac
  addr2 : Mac
  addr3 : Mac
  frag : UInt16
  addr4 : Option Mac
  tid : Option UInt8
  deriving DecidableEq

def ccmpCovered (hdr : List UInt8) : Covered where
  fc := frameCtl hdr &&& ~~~fcMasked
  addr1 := addr1 hdr
  addr2 := addr2 hdr
  addr3 := addr3 hdr
  frag := seqFrag (seqCtl hdr)
  addr4 := if a4Included (frameCtl hdr) then some (addr4 hdr) else none
  tid := if qcIncluded (frameCtl hdr) then some (ccmpQc hdr) else none

/-- The additional data of what is covered. -/
def Covered.aad (c : Covered) : List UInt8 :=
  let qc := c.tid.getD 0
  [0, UInt8.ofNat (22 + (if c.addr4.isSome then 6 else 0) + (if c.tid.isSome then 2 else 0)),
      lo8 c.fc, hi8 c.fc] ++ (c.addr1.toList ++ c.addr2.toList ++ c.addr3.toList) ++ [lo8 c.frag, 0] ++
    match c.addr4 with
    | some m => m.toList ++ [qc, 0]
    | none => qc :: List.replicate 7 0

section

variable {d d' : List UInt8}

/-- The masked frame control keeps type, DS bits and the QoS bit. -/
theorem included_masked (fc : UInt16) :
    a4Included (fc &&& ~~~fcMasked) = a4Included fc ∧ qcIncluded (fc &&& ~~~fcMasked) = qcIncluded fc := by
  have hds : ~~~fcMasked &&& (fctlFromds ||| fctlTods) = fctlFromds ||| fctlTods := by decide
  have htype : ~~~fcMasked &&& 0x000c = 0x000c := by decide
  have hqos : ~~~fcMasked &&& (0x00f0 &&& 0x80) = 0x00f0 &&& 0x80 := by decide
  unfold a4Included qcIncluded dsBits fcType fcStype
  rw [UInt16.and_assoc, hds, UInt16.and_assoc, htype, UInt16.and_assoc, UInt16.and_assoc, hqos,
    UInt16.and_assoc]
  exact ⟨rfl, rfl⟩

/-- The additional data are those of what is covered. -/
theorem ccmpAad_eq (h : dataHdr3Len + ccmpHdrLen ≤ d.length) : ccmpAad d = (ccmpCovered d).aad := by
  have hlen : 32 ≤ d.length := h
  have hmask : ~~~fcMasked = mk16 0xc7 0x8f := by decide
  have hfc : frameCtl d &&& ~~~fcMasked = mk16 (at8 d 1 &&& 0xc7) (at8 d 0 &&& 0x8f) := by
    rw [hmask, frameCtl, get16, mk16_and]
  have hfrag : seqFrag (seqCtl d) = mk16 (at8 d 23 &&& 0) (at8 d 22 &&& 0x0f) := by
    rw [seqFrag, seqCtl, get16, show (0x000F : UInt16) = mk16 0 0x0f by decide, mk16_and]
  have haddrs : slice 4 18 d = (addr1 d).toList ++ (addr2 d).toList ++ (addr3 d).toList := by
    rw [addr1, addr2, addr3, toList_read (by omega), toList_read (by omega), toList_read (by omega),
      List.append_assoc, ← slice_add 10 6 6, ← slice_add 4 6 12]
  have haddr4 : slice 24 6 d = (addr4 d).toList := (toList_read (by omega)).symm
  unfold ccmpAad Covered.aad ccmpCovered
  simp only [hfc, hfrag, haddrs, haddr4, lo8_mk16, hi8_mk16]
  cases ha : a4Included (frameCtl d) <;> cases hq : qcIncluded (frameCtl d) <;>
    simp [ccmpQc, hq]

/-- Equal low bytes of fragment numbers are equal fragment numbers. -/
theorem seqFrag_inj {sc sc' : UInt16} (h : lo8 (seqFrag sc) = lo8 (seqFrag sc')) :
    seqFrag sc = seqFrag sc' := by
  have hhigh : ∀ v, hi8 (seqFrag v) = 0 := by
    intro v
    rw [seqFrag, ← mk16_hi8_lo8 v, show (0x000F : UInt16) = mk16 0 0x0f by decide, mk16_and, hi8_mk16,
      UInt8.and_zero]
  rw [← mk16_hi8_lo8 (seqFrag sc), ← mk16_hi8_lo8 (seqFrag sc'), h, hhigh, hhigh]

theorem Mac.toList_inj {m m' : Mac} (h : m.toList = m'.toList) : m = m' := by
  obtain ⟨b0, b1, b2, b3, b4, b5⟩ := m
  obtain ⟨c0, c1, c2, c3, c4, c5⟩ := m'
  cases h
  rfl

/-- **What the additional data cover**, neither more nor less. -/
theorem ccmpAad_eq_iff (h : dataHdr3Len + ccmpHdrLen ≤ d.length)
    (h' : dataHdr3Len + ccmpHdrLen ≤ d'.length) :
    ccmpAad d = ccmpAad d' ↔ ccmpCovered d = ccmpCovered d' := by
  rw [ccmpAad_eq h, ccmpAad_eq h']
  refine ⟨fun heq => ?_, fun heq => by rw [heq]⟩
  unfold Covered.aad at heq
  obtain ⟨hfront, htail⟩ := List.append_inj heq (by simp)
  obtain ⟨hfront, hfrag⟩ := List.append_inj hfront (by simp)
  obtain ⟨hhead, haddrs⟩ := List.append_inj hfront (by simp)
  obtain ⟨haddrs, h3⟩ := List.append_inj haddrs (by simp)
  obtain ⟨h1, h2⟩ := List.append_inj haddrs (by simp)
  simp only [List.cons.injEq, and_true, true_and] at hhead hfrag
  have hfc : (ccmpCovered d).fc = (ccmpCovered d').fc := by
    rw [← mk16_hi8_lo8 (ccmpCovered d).fc, ← mk16_hi8_lo8 (ccmpCovered d').fc, hhead.2.1, hhead.2.2]
  -- the frame control says whether there are a fourth address and a QoS control
  have hinc := included_masked (frameCtl d)
  have hinc' := included_masked (frameCtl d')
  have hfc' : frameCtl d &&& ~~~fcMasked = frameCtl d' &&& ~~~fcMasked := hfc
  rw [hfc'] at hinc
  have ha4 : a4Included (frameCtl d) = a4Included (frameCtl d') := hinc.1.symm.trans hinc'.1
  have hqc : qcIncluded (frameCtl d) = qcIncluded (frameCtl d') := hinc.2.symm.trans hinc'.2
  have htail' : (ccmpCovered d).addr4 = (ccmpCovered d').addr4 ∧
      (ccmpCovered d).tid = (ccmpCovered d').tid := by
    unfold ccmpCovered at htail ⊢
    dsimp only at htail ⊢
    rw [ha4, hqc] at htail ⊢
    cases ha : a4Included (frameCtl d') <;> cases hq : qcIncluded (frameCtl d') <;>
      simp only [ha, hq, if_true, if_false, Bool.false_eq_true, Option.getD_some, Option.getD_none]
        at htail ⊢
    · exact ⟨trivial, trivial⟩
    · exact ⟨trivial, by rw [(List.cons.inj htail).1]⟩
    · obtain ⟨hm, -⟩ := List.append_inj htail rfl
      exact ⟨by rw [Mac.toList_inj hm], trivial⟩
    · obtain ⟨hm, hq⟩ := List.append_inj htail rfl
      exact ⟨by rw [Mac.toList_inj hm], by rw [(List.cons.inj hq).1]⟩
  have hext : ∀ {c c' : Covered}, c.fc = c'.fc → c.addr1 = c'.addr1 → c.addr2 = c'.addr2 →
      c.addr3 = c'.addr3 → c.frag = c'.frag → c.addr4 = c'.addr4 → c.tid = c'.tid → c = c' := by
    rintro ⟨⟩ ⟨⟩ rfl rfl rfl rfl rfl rfl rfl
    rfl
  exact hext hfc (Mac.toList_inj h1) (Mac.toList_inj h2) (Mac.toList_inj h3) (seqFrag_inj hfrag)
    htail'.1 htail'.2

/-! ### Frames that differ in masked bits only -/

/-- The frames are equal byte for byte, but for the masked bits of the frame
control, the duration, and the sequence number. -/
structure EqualButMasked (d d' : List UInt8) : Prop where
  fc : frameCtl d &&& ~~~fcMasked = frameCtl d' &&& ~~~fcMasked
  addrs : slice 4 18 d = slice 4 18 d'
  frag : seqFrag (seqCtl d) = seqFrag (seqCtl d')
  rest : d.drop dataHdr3Len = d'.drop dataHdr3Len
  length : d.length = d'.length

theorem EqualButMasked.at8_eq (h : EqualButMasked d d') {i : ℕ} (hi : dataHdr3Len ≤ i) :
    at8 d i = at8 d' i := by
  obtain ⟨k, rfl⟩ := Nat.exists_eq_add_of_le hi
  rw [← at8_drop, h.rest, at8_drop]

theorem EqualButMasked.drop_eq (h : EqualButMasked d d') {n : ℕ} (hn : dataHdr3Len ≤ n) :
    d.drop n = d'.drop n := by
  obtain ⟨k, rfl⟩ := Nat.exists_eq_add_of_le hn
  rw [← List.drop_drop, h.rest, List.drop_drop]

/-- The masked bits do not say what a header has. -/
theorem EqualButMasked.included (h : EqualButMasked d d') :
    a4Included (frameCtl d) = a4Included (frameCtl d') ∧
      qcIncluded (frameCtl d) = qcIncluded (frameCtl d') := by
  have hinc := included_masked (frameCtl d)
  rw [h.fc] at hinc
  have hinc' := included_masked (frameCtl d')
  exact ⟨hinc.1.symm.trans hinc'.1, hinc.2.symm.trans hinc'.2⟩

theorem EqualButMasked.qc (h : EqualButMasked d d') : ccmpQc d = ccmpQc d' := by
  obtain ⟨ha4, hqc⟩ := h.included
  unfold ccmpQc
  rw [ha4, hqc]
  split_ifs
  · rw [h.at8_eq (by decide)]
  · rw [h.at8_eq (by decide)]
  · rfl

/-- The same is covered of both. -/
theorem EqualButMasked.covered (h : EqualButMasked d d')
    (hlen : dataHdr3Len + ccmpHdrLen ≤ d.length) : ccmpCovered d = ccmpCovered d' := by
  have hlen' : 32 ≤ d.length := hlen
  have hlen'' : 32 ≤ d'.length := h.length ▸ hlen'
  have hsplit : ∀ {d : List UInt8}, 32 ≤ d.length →
      slice 4 18 d = (addr1 d).toList ++ ((addr2 d).toList ++ (addr3 d).toList) := by
    intro d hd
    rw [addr1, addr2, addr3, toList_read (by omega), toList_read (by omega), toList_read (by omega),
      ← slice_add 10 6 6, ← slice_add 4 6 12]
  have haddrs := h.addrs
  rw [hsplit hlen', hsplit hlen''] at haddrs
  obtain ⟨h1, haddrs⟩ := List.append_inj haddrs rfl
  obtain ⟨h2, h3⟩ := List.append_inj haddrs rfl
  have h4 : addr4 d = addr4 d' := by
    simp only [addr4, Mac.read, h.at8_eq (show dataHdr3Len ≤ 24 by decide),
      h.at8_eq (show dataHdr3Len ≤ 25 by decide), h.at8_eq (show dataHdr3Len ≤ 26 by decide),
      h.at8_eq (show dataHdr3Len ≤ 27 by decide), h.at8_eq (show dataHdr3Len ≤ 28 by decide),
      h.at8_eq (show dataHdr3Len ≤ 29 by decide)]
  obtain ⟨ha4, hqc⟩ := h.included
  unfold ccmpCovered
  rw [h.fc, Mac.toList_inj h1, Mac.toList_inj h2, Mac.toList_inj h3, h.frag, ha4, hqc, h4, h.qc]

variable (prim : Primitives) {skb skb' : SkBuff} {hdrLen : ℕ}

/-- So both have the same blocks. -/
theorem EqualButMasked.blocks (h : EqualButMasked d d')
    (hlen : dataHdr3Len + ccmpHdrLen ≤ d.length) (tfm : List UInt8) (pn : Pn) (dlen : ℕ) :
    ccmpInitBlocks prim tfm d pn dlen = ccmpInitBlocks prim tfm d' pn dlen := by
  have hcov := h.covered hlen
  have haad := (ccmpAad_eq_iff hlen (h.length ▸ hlen)).mpr hcov
  have h2 : addr2 d = addr2 d' := congrArg Covered.addr2 hcov
  rw [ccmpInitBlocks_eq, ccmpInitBlocks_eq, haad, h.qc, h2]

/-- And the same plaintext, MAC and MIC. -/
theorem EqualButMasked.opened (h : EqualButMasked d d') (hhdr : dataHdr3Len ≤ hdrLen)
    (hlen : dataHdr3Len + ccmpHdrLen ≤ d.length) (tfm : List UInt8) (dataLen : ℕ) :
    Pn.ofHdr d hdrLen = Pn.ofHdr d' hdrLen ∧
      ccmpOpen prim tfm d hdrLen dataLen = ccmpOpen prim tfm d' hdrLen dataLen := by
  have hpn : Pn.ofHdr d hdrLen = Pn.ofHdr d' hdrLen := by
    have hbyte : ∀ k, at8 d (hdrLen + k) = at8 d' (hdrLen + k) := fun k => h.at8_eq (by omega)
    have hzero := hbyte 0
    rw [Nat.add_zero] at hzero
    simp only [Pn.ofHdr, hbyte, hzero]
  refine ⟨hpn, ?_⟩
  have hdrop : d.drop (hdrLen + ccmpHdrLen) = d'.drop (hdrLen + ccmpHdrLen) := h.drop_eq (by omega)
  unfold ccmpOpen
  rw [hpn, h.blocks prim hlen, hdrop]

/-- Two decryptions with the same result, the same plaintext behind the header
and the same context after them. -/
def SameDecryption (hdrLen : ℕ) (r r' : CryptRes CcmpData) : Prop :=
  r.ret = r'.ret ∧ r.skb.data.drop hdrLen = r'.skb.data.drop hdrLen ∧ r.priv = r'.priv

theorem ccmpDecrypt_masked (key : CcmpData) (hhdr : dataHdr3Len ≤ hdrLen)
    (h : EqualButMasked skb.data skb'.data) :
    SameDecryption hdrLen (ccmpDecrypt prim skb hdrLen key) (ccmpDecrypt prim skb' hdrLen key) := by
  have hlen : skb.len = skb'.len := h.length
  have hbyte : at8 skb.data (hdrLen + 3) = at8 skb'.data (hdrLen + 3) := h.at8_eq (by omega)
  have hdrop := h.drop_eq hhdr
  unfold ccmpDecrypt
  dsimp only
  rw [← hlen, ← hbyte]
  by_cases hshort : skb.len < hdrLen + ccmpHdrLen + ccmpMicLen
  · rw [if_pos hshort, if_pos hshort]
    exact ⟨rfl, hdrop, rfl⟩
  rw [if_neg hshort, if_neg hshort]
  have hmin : dataHdr3Len + ccmpHdrLen ≤ skb.data.length := by
    unfold SkBuff.len at hshort
    omega
  obtain ⟨hpn, hopen⟩ := h.opened prim hhdr hmin key.tfm (skb.len - hdrLen - ccmpHdrLen - ccmpMicLen)
  rw [← hopen, ← hpn]
  have hmicLen : (ccmpOpen prim key.tfm skb.data hdrLen
      (skb.len - hdrLen - ccmpHdrLen - ccmpMicLen)).2.2.length = ccmpMicLen := by
    apply length_ccmpOpen_mic
    unfold SkBuff.len at hshort ⊢
    omega
  set r := ccmpOpen prim key.tfm skb.data hdrLen (skb.len - hdrLen - ccmpHdrLen - ccmpMicLen)
  have hbody : ccmpMicLen ≤ (r.2.1 ++ r.2.2).length := by
    rw [List.length_append, hmicLen]
    omega
  have hfront : (skb.data.take (hdrLen + ccmpHdrLen)).length = hdrLen + ccmpHdrLen := by
    rw [List.length_take]
    unfold SkBuff.len at hshort
    omega
  have hfront' : (skb'.data.take (hdrLen + ccmpHdrLen)).length = hdrLen + ccmpHdrLen := by
    rw [List.length_take, ← h.length]
    unfold SkBuff.len at hshort
    omega
  have hhdrLen : hdrLen ≤ skb.data.length ∧ hdrLen ≤ skb'.data.length := by
    rw [← h.length]
    unfold SkBuff.len at hshort
    omega
  split_ifs
  · exact ⟨rfl, hdrop, rfl⟩
  · exact ⟨rfl, hdrop, rfl⟩
  · exact ⟨rfl, hdrop, rfl⟩
  · -- a bad MIC: the payload stays behind the two packet headers
    refine ⟨rfl, ?_, rfl⟩
    dsimp only
    rw [List.drop_append_of_le_length (by omega), List.drop_append_of_le_length (by omega),
      List.drop_take, List.drop_take, hdrop]
  · refine ⟨rfl, ?_, rfl⟩
    dsimp only
    rw [SkBuff.strip_data _ _ _ hfront rfl hbody, SkBuff.strip_data _ _ _ hfront' rfl hbody,
      List.take_take, List.take_take, min_eq_left (by omega),
      List.drop_left' (List.length_take_of_le hhdrLen.1),
      List.drop_left' (List.length_take_of_le hhdrLen.2)]

/-- **CCMP header masking.** Frames that differ in masked bits only are
decrypted alike; frames that differ in anything else that is covered of their
headers have different additional data. -/
theorem ccmp_header_masked :
    (∀ (key : CcmpData) (hdrLen : ℕ) (skb skb' : SkBuff), dataHdr3Len ≤ hdrLen →
      EqualButMasked skb.data skb'.data →
      SameDecryption hdrLen (ccmpDecrypt prim skb hdrLen key) (ccmpDecrypt prim skb' hdrLen key)) ∧
    ∀ d d' : List UInt8, dataHdr3Len + ccmpHdrLen ≤ d.length → dataHdr3Len + ccmpHdrLen ≤ d'.length →
      ccmpCovered d ≠ ccmpCovered d' → ccmpAad d ≠ ccmpAad d' :=
  ⟨fun key _ _ _ hhdr h => ccmpDecrypt_masked prim key hhdr h,
    fun _ _ hlen hlen' hne heq => hne ((ccmpAad_eq_iff hlen hlen').mp heq)⟩

/-- A frame sent again, and two of different traffic identifiers. -/
theorem ccmp_header_masked_retry :
    SameDecryption 26
      (ccmpDecrypt linuxPrimitives ⟨16, [0x88, 0x49] ++ List.replicate 40 0, []⟩ 26 (ccmpInit 0))
      (ccmpDecrypt linuxPrimitives ⟨16, [0x88, 0x41] ++ List.replicate 40 0, []⟩ 26 (ccmpInit 0)) ∧
    ccmpAad ([0x88, 0x41] ++ List.replicate 40 5) ≠ ccmpAad ([0x88, 0x41] ++ List.replicate 40 6) :=
  ⟨(ccmp_header_masked linuxPrimitives).1 (ccmpInit 0) 26 _ _ (by decide)
      ⟨by decide, rfl, by decide, rfl, rfl⟩,
    (ccmp_header_masked linuxPrimitives).2 _ _ (by decide) (by decide) (by decide)⟩

/-! ### There and back -/

/-- **CCMP round trip.** What one side encrypts, with whatever number, the
other decrypts to the header and payload it was made of. -/
theorem ccmp_round_trip (tx rx : CcmpData) (hdr payload : List UInt8) (htfm : rx.tfm = tx.tfm)
    (hidx : rx.keyIdx = tx.keyIdx) (hset : rx.keySet = true) (hhdr : dataHdr3Len ≤ hdr.length)
    (hd : skb.data = hdr ++ payload) (hhead : ccmpHdrLen ≤ skb.headroom)
    (htail : ccmpMicLen ≤ skb.tailroom) :
    let sent := ccmpEncrypt prim skb hdr.length tx
    let got := ccmpDecrypt prim sent.skb hdr.length rx
    sent.ret = 0 ∧ got.ret = rx.keyIdx.val ∧ got.skb.data = hdr ++ payload := by
  obtain ⟨hret, -, hout⟩ := ccmpEncrypt_ok prim tx hd hhead htail
  rw [← htfm, ← hidx] at hout
  obtain ⟨hidx', -, hback⟩ := ccmpDecrypt_encrypted prim hhdr hset hout
  exact ⟨hret, hidx', hback⟩

/-- A payload of three blocks, less a byte. -/
theorem ccmp_round_trip_partial :
    let key := (ccmpSetKey (counted 16) none (ccmpInit 2)).2
    let sent := ccmpEncrypt linuxPrimitives ⟨8, List.replicate 26 1 ++ counted 47, List.replicate 8 0⟩
      (List.replicate 26 (1 : UInt8)).length key
    let got := ccmpDecrypt linuxPrimitives sent.skb (List.replicate 26 (1 : UInt8)).length key
    sent.ret = 0 ∧ got.ret = (2 : ℕ) ∧ got.skb.data = List.replicate 26 1 ++ counted 47 :=
  @ccmp_round_trip linuxPrimitives ⟨8, List.replicate 26 1 ++ counted 47, List.replicate 8 0⟩
    (ccmpSetKey (counted 16) none (ccmpInit 2)).2 (ccmpSetKey (counted 16) none (ccmpInit 2)).2
    (List.replicate 26 1) (counted 47) rfl rfl rfl (by decide) rfl (by decide) (by decide)

-- the example vector of the standard for CCMP: the 20 bytes encrypted, and the MIC
example : (ccmpFrame linuxPrimitives
      [0xc9, 0x7c, 0x1f, 0x67, 0xce, 0x37, 0x11, 0x85, 0x51, 0x4a, 0x8a, 0x19, 0xf2, 0xbd, 0xd5, 0x2f]
      ⟨[0xb5, 0x03, 0x97, 0x76, 0xe7, 0x0c], rfl⟩ 0
      [0x08, 0x48, 0xc3, 0x2c, 0x0f, 0xd2, 0xe1, 0x28, 0xa5, 0x7c, 0x50, 0x30,
        0xf1, 0x84, 0x44, 0x08, 0xab, 0xae, 0xa5, 0xb8, 0xfc, 0xba, 0x80, 0x33]
      [0xf8, 0xba, 0x1a, 0x55, 0xd0, 0x2f, 0x85, 0xae, 0x96, 0x7b,
        0xb6, 0x2f, 0xb6, 0xcd, 0xa8, 0xeb, 0x7e, 0x78, 0xa0, 0x50]).drop 32 =
    [0xf3, 0xd0, 0xa2, 0xfe, 0x9a, 0x3d, 0xbf, 0x23, 0x42, 0xa6,
      0x43, 0xe4, 0x32, 0x46, 0xe8, 0x0c, 0x3c, 0x04, 0xd0, 0x19,
      0x78, 0x45, 0xce, 0x0b, 0x16, 0xf9, 0x76, 0x23] := by
  decide +kernel

end

end Rtl8187
