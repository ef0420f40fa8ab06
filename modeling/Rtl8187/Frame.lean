/-
# 802.11 frames

The frame-control bits, the header fields and the header length, as
`ieee80211.h` has them. A frame is its bytes: a field is read where
`struct ieee80211_hdr` puts it.

Key definitions: `Mac`, `frameCtl`, `addr1`, `addr2`, `addr3`, `addr4`,
`seqCtl`, `getHdrlen`.
-/
import Rtl8187.Lib.Bytes

namespace Rtl8187

open Bytes

/-- `ETH_ALEN` bytes. -/
structure Mac where
  b0 : UInt8
  b1 : UInt8
  b2 : UInt8
  b3 : UInt8
  b4 : UInt8
  b5 : UInt8
  deriving Repr

/-- Addresses are compared byte by byte. The derived instance carries a proof of equality
from byte to byte, and a run that compares two headers does not evaluate with it. -/
instance : DecidableEq Mac := fun m n =>
  decidable_of_iff (m.b0 = n.b0 ∧ m.b1 = n.b1 ∧ m.b2 = n.b2 ∧ m.b3 = n.b3 ∧ m.b4 = n.b4 ∧ m.b5 = n.b5)
    (by cases m; cases n; simp)

namespace Mac

def toList (m : Mac) : List UInt8 := [m.b0, m.b1, m.b2, m.b3, m.b4, m.b5]

/-- The address at offset `i`. -/
def read (d : List UInt8) (i : ℕ) : Mac :=
  ⟨at8 d i, at8 d (i + 1), at8 d (i + 2), at8 d (i + 3), at8 d (i + 4), at8 d (i + 5)⟩

/-- `is_multicast_ether_addr`; the broadcast address is one too. -/
def isMulticast (m : Mac) : Bool := m.b0 &&& 1 != 0

@[simp] theorem length_toList (m : Mac) : m.toList.length = 6 := rfl

theorem read_take {d : List UInt8} {i k : ℕ} (h : i + 5 < k) : read (d.take k) i = read d i := by
  simp only [read, at8_take (show i < k by omega), at8_take (show i + 1 < k by omega),
    at8_take (show i + 2 < k by omega), at8_take (show i + 3 < k by omega),
    at8_take (show i + 4 < k by omega), at8_take h]

end Mac

/-- Six bytes of a frame are an address. -/
theorem toList_read {d : List UInt8} {i : ℕ} (h : i + 6 ≤ d.length) : (Mac.read d i).toList = slice i 6 d := by
  have hget : ∀ k < 6, at8 d (i + k) = (slice i 6 d).getD k 0 := by
    intro k hk
    rw [slice, List.getD_eq_getElem?_getD, List.getElem?_take_of_lt hk, List.getElem?_drop, at8,
      List.getD_eq_getElem?_getD]
  have hlen : (slice i 6 d).length = 6 := by
    rw [slice, List.length_take, List.length_drop]
    omega
  rcases hs : slice i 6 d with _ | ⟨b0, _ | ⟨b1, _ | ⟨b2, _ | ⟨b3, _ | ⟨b4, _ | ⟨b5, _ | ⟨b6, rest⟩⟩⟩⟩⟩⟩⟩
  case cons.cons.cons.cons.cons.cons.nil =>
    rw [hs] at hget
    have h0 := hget 0 (by omega)
    rw [Nat.add_zero] at h0
    simp only [Mac.toList, Mac.read, h0, hget 1 (by omega), hget 2 (by omega), hget 3 (by omega),
      hget 4 (by omega), hget 5 (by omega)]
    rfl
  all_goals
    rw [hs] at hlen
    simp only [List.length_cons, List.length_nil] at hlen
    omega

/-! ### Frame control -/

def fctlTods : UInt16 := 0x0100
def fctlFromds : UInt16 := 0x0200
def fctlMorefrags : UInt16 := 0x0400
def fctlRetry : UInt16 := 0x0800
def fctlPm : UInt16 := 0x1000
def fctlMoredata : UInt16 := 0x2000
def fctlWep : UInt16 := 0x4000

def ftypeMgmt : UInt16 := 0x0000
def ftypeCtl : UInt16 := 0x0004
def ftypeData : UInt16 := 0x0008

def stypeData : UInt16 := 0x0000
def stypeDataCfack : UInt16 := 0x0010
def stypeDataCfpoll : UInt16 := 0x0020
def stypeDataCfackpoll : UInt16 := 0x0030
def stypeCts : UInt16 := 0x00C0
def stypeAck : UInt16 := 0x00D0

/-- `WLAN_FC_GET_TYPE` -/
def fcType (fc : UInt16) : UInt16 := fc &&& 0x000c

/-- `WLAN_FC_GET_STYPE` -/
def fcStype (fc : UInt16) : UInt16 := fc &&& 0x00f0

/-- Whether the WEP bit (Protected) is set. -/
def isProtected (fc : UInt16) : Bool := fc &&& fctlWep != 0

/-- Whether more fragments follow. -/
def moreFrags (fc : UInt16) : Bool := fc &&& fctlMorefrags != 0

/-- The ToDS and FromDS bits. -/
def dsBits (fc : UInt16) : UInt16 := fc &&& (fctlFromds ||| fctlTods)

/-- `WLAN_GET_SEQ_FRAG` -/
def seqFrag (sc : UInt16) : UInt16 := sc &&& 0x000F

/-- `WLAN_GET_SEQ_SEQ`. The number stays in the upper twelve bits. -/
def seqSeq (sc : UInt16) : UInt16 := sc &&& 0xFFF0

/-! ### Header fields -/

def frameCtl (d : List UInt8) : UInt16 := get16 d 0
def addr1 (d : List UInt8) : Mac := Mac.read d 4
def addr2 (d : List UInt8) : Mac := Mac.read d 10
def addr3 (d : List UInt8) : Mac := Mac.read d 16
def seqCtl (d : List UInt8) : UInt16 := get16 d 22
def addr4 (d : List UInt8) : Mac := Mac.read d 24

/-- `IEEE80211_DATA_HDR3_LEN`, `IEEE80211_3ADDR_LEN` -/
def dataHdr3Len : ℕ := 24

/-- `IEEE80211_DATA_HDR4_LEN` -/
def dataHdr4Len : ℕ := 30

/-- `ieee80211_get_hdrlen`. Only data frames have a fourth address. -/
def getHdrlen (fc : UInt16) : ℕ :=
  if fcType fc = ftypeData then
    if fc &&& fctlFromds ≠ 0 ∧ fc &&& fctlTods ≠ 0 then dataHdr4Len else dataHdr3Len
  else if fcType fc = ftypeCtl then
    if fcStype fc = stypeCts ∨ fcStype fc = stypeAck then 10 else 16
  else dataHdr3Len

/-- `ETH_P_PAE`, the Ethernet type of EAPOL frames. -/
def ethPPae : UInt16 := 0x888E

theorem getHdrlen_pos (fc : UInt16) : 10 ≤ getHdrlen fc := by
  unfold getHdrlen dataHdr4Len dataHdr3Len
  split_ifs <;> omega

/-- A mask of one bit leaves nothing or the bit. -/
theorem and_bit {v m : UInt16} (i : ℕ) (hm : m.toNat = 2 ^ i) (h : v &&& m ≠ 0) : v &&& m = m := by
  have hand : (v &&& m).toNat = (v.toNat.testBit i).toNat * 2 ^ i := by
    rw [UInt16.toNat_and, hm, Nat.and_two_pow]
  apply UInt16.toNat_inj.mp
  cases hb : v.toNat.testBit i with
  | false =>
    rw [hb, Bool.toNat_false, Nat.zero_mul] at hand
    exact absurd (UInt16.toNat_inj.mp hand) h
  | true => rw [hand, hb, hm, Bool.toNat_true, Nat.one_mul]

theorem dsBits_both {fc : UInt16} (hfrom : fc &&& fctlFromds ≠ 0) (hto : fc &&& fctlTods ≠ 0) :
    dsBits fc = fctlFromds ||| fctlTods := by
  have h1 : fc &&& fctlFromds = fctlFromds := and_bit 9 rfl hfrom
  have h2 : fc &&& fctlTods = fctlTods := and_bit 8 rfl hto
  calc dsBits fc = (fc &&& fctlFromds) ||| (fc &&& fctlTods) :=
        UInt16.toBitVec_inj.mp BitVec.and_or_distrib_left
    _ = fctlFromds ||| fctlTods := by rw [h1, h2]

theorem dsBits_both_iff (fc : UInt16) :
    dsBits fc = fctlTods ||| fctlFromds ↔ fc &&& fctlFromds ≠ 0 ∧ fc &&& fctlTods ≠ 0 := by
  constructor
  · intro h
    have hbit : ∀ m : UInt16, (fctlFromds ||| fctlTods) &&& m = m → (fctlTods ||| fctlFromds) &&& m ≠ 0 →
        fc &&& m ≠ 0 := by
      intro m hm hne
      rwa [← hm, ← UInt16.and_assoc, ← dsBits, h]
    exact ⟨hbit fctlFromds (by decide) (by decide), hbit fctlTods (by decide) (by decide)⟩
  · rintro ⟨hfrom, hto⟩
    rw [dsBits_both hfrom hto]
    decide

/-! ### The header is a prefix of the frame -/

section

variable {d : List UInt8} {k : ℕ}

theorem frameCtl_take (h : 1 < k) : frameCtl (d.take k) = frameCtl d := get16_take h

theorem addr1_take (h : 9 < k) : addr1 (d.take k) = addr1 d := Mac.read_take h

theorem addr2_take (h : 15 < k) : addr2 (d.take k) = addr2 d := Mac.read_take h

theorem addr3_take (h : 21 < k) : addr3 (d.take k) = addr3 d := Mac.read_take h

theorem seqCtl_take (h : 23 < k) : seqCtl (d.take k) = seqCtl d := get16_take h

theorem addr4_take (h : 29 < k) : addr4 (d.take k) = addr4 d := Mac.read_take h

end

end Rtl8187
