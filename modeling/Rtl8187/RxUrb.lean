/-
# The receive URB

`rtl8180_irq_rx_tasklet` (`r8187_core.c`). The device puts a frame into the URB's
buffer, with four bytes of checksum, padding, and a descriptor of sixteen bytes
at the end of what it transferred. The frame's length is in the descriptor, and
is compared with the length of the transfer only, so the descriptor is read
before the buffer when the transfer is short, and a length below four is taken
for a very large one (`inBounds_iff`).

Nothing comes of the byte the tasklet looks at in the new buffer (`addr3[5]`),
and it is not part of the model; nor is the antenna diversity, which is not
compiled in.

Key definitions: `RxUrb`, `RxDesc`, `irqRxTasklet`, `RxDone.InBounds`.
Key theorems: `irqRxTasklet_copied`, `inBounds_iff`.
-/
import Rtl8187.Survey

namespace Rtl8187

open Bytes

/-- `RX_URB_SIZE` -/
def rxUrbSize : ℕ := 0x9c4

/-- A completed receive URB. The memory is given by offsets from
`transfer_buffer`; the device has filled the first `actualLength` bytes. -/
structure RxUrb where
  status : ℤ
  actualLength : ℕ
  mem : ℤ → UInt8
  fits : actualLength ≤ rxUrbSize

/-- `struct rx_desc_rtl8187`, as far as it is looked at. -/
structure RxDesc where
  /-- Twelve bits. -/
  rxlen : ℕ
  rxrate : UInt16
  sq : UInt8
  rssi : UInt8
  agc : UInt8
  tsftl : UInt32
  tsfth : UInt32
  deriving DecidableEq

/-- Four bytes, the lowest first. -/
def mk32 (b0 b1 b2 b3 : UInt8) : UInt32 :=
  b0.toUInt32 ||| b1.toUInt32 <<< 8 ||| b2.toUInt32 <<< 16 ||| b3.toUInt32 <<< 24

/-- The descriptor at an offset. -/
def RxUrb.desc (urb : RxUrb) (off : ℤ) : RxDesc where
  rxlen := (urb.mem off).toNat + 256 * ((urb.mem (off + 1)).toNat % 16)
  rxrate := ((urb.mem (off + 2)) >>> 4).toUInt16
  sq := urb.mem (off + 4)
  rssi := urb.mem (off + 5) &&& 0x7f
  agc := urb.mem (off + 6)
  tsftl := mk32 (urb.mem (off + 8)) (urb.mem (off + 9)) (urb.mem (off + 10)) (urb.mem (off + 11))
  tsfth := mk32 (urb.mem (off + 12)) (urb.mem (off + 13)) (urb.mem (off + 14)) (urb.mem (off + 15))

/-- `struct ieee80211_rx_stats` -/
structure RxUrbStats extends RxStats where
  signal : UInt8
  noise : UInt8
  rate : UInt16
  signalstrength : UInt8

/-- What the tasklet keeps in `struct r8180_priv` and in `ieee->stats`. -/
structure RxCounts where
  rxok : ℕ
  rxurberr : ℕ
  rxstaterr : ℕ
  rxErrors : ℕ
  recvSignalPower : ℤ
  deriving DecidableEq

/-- A frame for `ieee80211_rx`: the length asked of `skb_put`, and what
`memcpy` copies. -/
structure RxCopy where
  length : ℤ
  frame : List UInt8
  stats : RxUrbStats

/-- What the tasklet does with a URB: where it reads the descriptor, the frame it
passes on, and whether it submits the URB again. -/
structure RxDone where
  counts : RxCounts
  descAt : Option ℤ
  copy : Option RxCopy
  resubmits : Bool

/-- `-ENOENT` -/
def enoent : ℤ := -2

/-- `SignalStrength` -/
def signalOf (agc : UInt8) : ℕ := ((agc &&& 0xfe) >>> 1).toNat

/-- `stats.signalstrength` -/
def signalStrength (rate : UInt16) (agc : UInt8) : UInt8 :=
  let bCckRate := decide (rate ≤ 22 ∧ rate ≠ 12 ∧ rate ≠ 18) || decide (rate = 44)
  let s := signalOf agc
  let s := if bCckRate then (95 - min 95 (max 30 s)) * 100 / 65 else (90 - min 90 (max 25 s)) * 100 / 65
  UInt8.ofNat (s * 75 / 100 + 25)

/-- The statistics of a frame. -/
def RxDesc.stats (desc : RxDesc) : RxUrbStats where
  freq := 1
  receivedChannel := 0
  macTime := (desc.tsftl, desc.tsfth)
  signal := desc.rssi
  noise := desc.sq
  rate := desc.rxrate
  signalstrength := signalStrength desc.rxrate desc.agc

/-- A length, as the `size_t` it is passed as. A `long` has 64 bits too. -/
def toSizeT (n : ℤ) : ℕ := (n % 2 ^ 64).toNat

section

variable (alloc : ℤ → Bool) (c : RxCounts) (urb : RxUrb)

/-- `rtl8180_irq_rx_tasklet`. Whether `dev_alloc_skb` succeeds for a length is
`alloc`. -/
def irqRxTasklet : RxDone :=
  if urb.status = 0 then
    let len : ℤ := urb.actualLength - 4 * 4
    let desc := urb.desc len
    if desc.rxlen ≤ urb.actualLength then
      let c := { c with recvSignalPower := (c.recvSignalPower * 5 + signalOf desc.agc - 1).tdiv 6 }
      let length : ℤ := desc.rxlen - 4
      if alloc length then
        { counts := { c with rxok := c.rxok + 1 }
          descAt := some len
          copy := some ⟨length, (List.range (toSizeT length)).map fun i => urb.mem i, desc.stats⟩
          resubmits := true }
      else ⟨c, some len, none, true⟩
    else ⟨{ c with rxurberr := c.rxurberr + 1 }, some len, none, true⟩
  else
    ⟨{ c with rxstaterr := c.rxstaterr + 1, rxErrors := c.rxErrors + 1 }, none, none,
      decide (urb.status ≠ enoent)⟩

/-- The descriptor is read inside what was transferred, and a frame is the first
`rxlen - 4` bytes, which are no fewer than none and end before the descriptor. -/
structure RxDone.InBounds (urb : RxUrb) (done : RxDone) : Prop where
  desc : ∀ off ∈ done.descAt, 0 ≤ off ∧ off + 16 ≤ urb.actualLength
  frame : ∀ copy ∈ done.copy, ∃ n : ℕ, copy.length = n ∧
    n + 4 = (urb.desc (urb.actualLength - 16)).rxlen ∧ n + 16 ≤ urb.actualLength ∧
    copy.frame = (List.range n).map fun i => urb.mem i

/-- The frame is passed on. -/
def PassedUp : Prop :=
  (urb.desc (urb.actualLength - 16)).rxlen ≤ urb.actualLength ∧
    alloc ((urb.desc (urb.actualLength - 16)).rxlen - 4) = true

/-- The lengths agree: the transfer has a descriptor, and the frame of a
descriptor that is not refused has a checksum and ends before it. -/
def LengthsAgree : Prop :=
  16 ≤ urb.actualLength ∧
    (PassedUp alloc urb → 4 ≤ (urb.desc (urb.actualLength - 16)).rxlen ∧
      (urb.desc (urb.actualLength - 16)).rxlen - 4 + 16 ≤ urb.actualLength)

variable {alloc c urb}

/-- The descriptor's place is settled by the transfer alone. -/
theorem irqRxTasklet_descAt (hstatus : urb.status = 0) :
    (irqRxTasklet alloc c urb).descAt = some ((urb.actualLength : ℤ) - 16) := by
  unfold irqRxTasklet
  rw [if_pos hstatus]
  dsimp only
  split_ifs <;> rfl

/-- **What is passed on.** -/
theorem irqRxTasklet_copy (hstatus : urb.status = 0) :
    (PassedUp alloc urb → ∃ copy, (irqRxTasklet alloc c urb).copy = some copy ∧
      copy.length = (urb.desc (urb.actualLength - 16)).rxlen - 4 ∧
      copy.frame = (List.range (toSizeT copy.length)).map fun i => urb.mem i) ∧
    (¬ PassedUp alloc urb → (irqRxTasklet alloc c urb).copy = none) := by
  have hoff : (urb.actualLength : ℤ) - 4 * 4 = urb.actualLength - 16 := by omega
  unfold irqRxTasklet PassedUp
  rw [if_pos hstatus]
  dsimp only
  rw [hoff]
  by_cases hlen : (urb.desc (urb.actualLength - 16)).rxlen ≤ urb.actualLength
  · rw [if_pos hlen]
    by_cases halloc : alloc ((urb.desc (urb.actualLength - 16)).rxlen - 4) = true
    · rw [if_pos halloc]
      exact ⟨fun _ => ⟨_, rfl, rfl, rfl⟩, fun h => absurd ⟨hlen, halloc⟩ h⟩
    · rw [if_neg halloc]
      exact ⟨fun h => absurd h.2 halloc, fun _ => rfl⟩
  · rw [if_neg hlen]
    exact ⟨fun h => absurd h.1 hlen, fun _ => rfl⟩

theorem rxlen_lt (off : ℤ) : (urb.desc off).rxlen < 4096 := by
  have hlow : (urb.mem off).toNat < 256 := UInt8.toNat_lt _
  show (urb.mem off).toNat + 256 * ((urb.mem (off + 1)).toNat % 16) < 4096
  omega

theorem toSizeT_of_nonneg {n : ℕ} (h : n < 4096) : toSizeT n = n := by
  unfold toSizeT
  rw [Int.emod_eq_of_lt (by omega) (by omega)]
  exact Int.toNat_natCast n

/-- **The bounds of a receive URB.** The tasklet keeps them exactly when the
transfer failed or the three lengths agree. -/
theorem inBounds_iff (alloc : ℤ → Bool) (c : RxCounts) (urb : RxUrb) :
    (irqRxTasklet alloc c urb).InBounds urb ↔ (urb.status = 0 → LengthsAgree alloc urb) := by
  by_cases hstatus : urb.status = 0
  · have hdesc := @irqRxTasklet_descAt alloc c urb hstatus
    obtain ⟨hpass, hnone⟩ := @irqRxTasklet_copy alloc c urb hstatus
    rw [imp_iff_right hstatus]
    constructor
    · intro h
      obtain ⟨hlow, -⟩ := h.desc _ hdesc
      refine ⟨by omega, fun hpasses => ?_⟩
      obtain ⟨copy, hcopy, -, -⟩ := hpass hpasses
      obtain ⟨n, -, hrxlen, hend, -⟩ := h.frame copy hcopy
      omega
    · rintro ⟨hwhole, hagree⟩
      refine ⟨?_, ?_⟩
      · intro off hoff
        rw [hdesc, Option.mem_some_iff] at hoff
        omega
      · intro copy hcopy
        by_cases hpasses : PassedUp alloc urb
        · obtain ⟨copy', hcopy', hlength, hframe⟩ := hpass hpasses
          obtain ⟨hfour, hend⟩ := hagree hpasses
          have hlt := @rxlen_lt urb (urb.actualLength - 16)
          rw [hcopy', Option.mem_some_iff] at hcopy
          rw [← hcopy]
          have hnat : copy'.length = ((urb.desc (urb.actualLength - 16)).rxlen - 4 : ℕ) := by omega
          refine ⟨(urb.desc (urb.actualLength - 16)).rxlen - 4, hnat, by omega, hend, ?_⟩
          rw [hframe, hnat, toSizeT_of_nonneg (by omega)]
        · rw [hnone hpasses] at hcopy
          cases hcopy
  · refine iff_of_true ?_ fun h => absurd h hstatus
    unfold irqRxTasklet
    rw [if_neg hstatus]
    refine ⟨?_, ?_⟩
    · intro off hoff
      cases hoff
    · intro copy hcopy
      cases hcopy

end

/-- A transfer of 32 bytes whose descriptor says 32 too. -/
def fullUrb : RxUrb := ⟨0, 32, fun i => if i = 16 then 32 else 0, by decide⟩

/-- The descriptor's first twelve bytes are passed on as if they were the frame's. -/
theorem descriptor_passed : ¬ ∀ (alloc : ℤ → Bool) (c : RxCounts) (urb : RxUrb),
    (irqRxTasklet alloc c urb).InBounds urb := by
  intro h
  have hbounds := h (fun _ => true) ⟨0, 0, 0, 0, 0⟩ fullUrb
  have hpass : PassedUp (fun _ => true) fullUrb := ⟨by decide, rfl⟩
  have hrxlen : (fullUrb.desc (fullUrb.actualLength - 16)).rxlen = 32 := by decide
  have hlength : fullUrb.actualLength = 32 := rfl
  obtain ⟨copy, hcopy, -, -⟩ :=
    (@irqRxTasklet_copy (fun _ => true) ⟨0, 0, 0, 0, 0⟩ fullUrb rfl).1 hpass
  obtain ⟨n, -, hn, hend, -⟩ := hbounds.frame copy hcopy
  omega

end Rtl8187
